import TaskQueue.Json.Doc
import TaskQueue.Proofs.Json.Token

/-!
# The grammar of documents

A text spells a document if it spells the tokens of the document, with any spaces among them.

Results:
1. `Doc.take?_tokens`, `Doc.eq_of_take?`: documents are taken from tokens as they are given to them.
2. `Doc.read?_eq_some_iff`: a document is read from a text if and only if the text spells it, so a
   text spells at most one.
3. `Doc.Writable.read?_write`: what is written is read again.
-/

namespace TaskQueue.Json.Doc

/-- The texts of a document. -/
def Spells (doc : Doc) (bytes : List UInt8) : Prop :=
  Spread doc.tokens bytes

/-! ## 1. From tokens -/

/-- A document does not begin with a bracket that closes an array. -/
theorem tokens_starts (doc : Doc) : ∃ t others, doc.tokens = t :: others ∧ t ≠ .closeArray := by
  cases doc <;> exact ⟨_, _, rfl, nofun⟩

theorem moreItemTokens_cons (item : Doc) (items : List Doc) :
    moreItemTokens (item :: items) = .comma :: itemTokens (item :: items) := rfl

theorem moreMemberTokens_cons (m : Text × Doc) (members : List (Text × Doc)) :
    moreMemberTokens (m :: members) = .comma :: memberTokens (m :: members) := rfl

theorem moreItemTokens_length (items : List Doc) : 0 < (moreItemTokens items).length := by
  cases items <;> exact Nat.succ_pos _

theorem take?_openArray {t : Token} {rest : List Token} (other : t ≠ .closeArray) (fuel : Nat) :
    take? (fuel + 1) (.openArray :: t :: rest) =
      (takeItems? fuel (t :: rest)).map fun r => (.array r.1, r.2) := by
  cases t
  case closeArray => exact absurd rfl other
  all_goals rw [take?]; nofun

mutual

/-- The tokens of a document are taken as that document; each token is enough for one step. -/
theorem take?_tokens (doc : Doc) (rest : List Token) {fuel : Nat}
    (enough : doc.tokens.length ≤ fuel) : take? fuel (doc.tokens ++ rest) = some (doc, rest) := by
  obtain ⟨t, others, starts, -⟩ := doc.tokens_starts
  cases fuel with
  | zero =>
    rw [starts] at enough
    cases enough
  | succ fuel =>
    cases doc with
    | array items =>
      cases items with
      | nil => rfl
      | cons item items =>
        have taken := takeItems?_tokens (item :: items) (List.cons_ne_nil _ _) rest
          (Nat.le_of_succ_le_succ enough)
        obtain ⟨t, others, first, other⟩ := item.tokens_starts
        rw [itemTokens, first, List.cons_append, List.cons_append] at taken
        rw [tokens, itemTokens, first]
        exact (take?_openArray other fuel).trans (congrArg _ taken)
    | object members =>
      cases members with
      | nil => rfl
      | cons m members =>
        have taken := takeMembers?_tokens (m :: members) (List.cons_ne_nil _ _) rest
          (Nat.le_of_succ_le_succ enough)
        exact congrArg (Option.map fun r => (Doc.object r.1, r.2)) taken
    | _ => rfl

theorem takeItems?_tokens (items : List Doc) (nonempty : items ≠ []) (rest : List Token)
    {fuel : Nat} (enough : (itemTokens items).length ≤ fuel) :
    takeItems? fuel (itemTokens items ++ rest) = some (items, rest) := by
  cases items with
  | nil => exact absurd rfl nonempty
  | cons item items =>
    have more := moreItemTokens_length items
    rw [itemTokens, List.length_append] at enough
    rw [itemTokens, List.append_assoc]
    cases fuel with
    | zero => omega
    | succ fuel =>
      rw [takeItems?, take?_tokens item (moreItemTokens items ++ rest) (by omega)]
      cases items with
      | nil => rfl
      | cons next items =>
        have fits : (itemTokens (next :: items)).length ≤ fuel := by
          rw [moreItemTokens_cons, List.length_cons] at enough
          omega
        have later := takeItems?_tokens (next :: items) (List.cons_ne_nil _ _) rest fits
        exact congrArg (Option.map _) later

theorem takeMembers?_tokens (members : List (Text × Doc)) (nonempty : members ≠ [])
    (rest : List Token) {fuel : Nat} (enough : (memberTokens members).length ≤ fuel) :
    takeMembers? fuel (memberTokens members ++ rest) = some (members, rest) := by
  cases members with
  | nil => exact absurd rfl nonempty
  | cons m members =>
    obtain ⟨key, value⟩ := m
    rw [memberTokens, List.length_append, List.length_cons, List.length_cons] at enough
    rw [memberTokens, List.append_assoc]
    cases fuel with
    | zero => omega
    | succ fuel =>
      rw [List.cons_append, List.cons_append, takeMembers?,
        take?_tokens value (moreMemberTokens members ++ rest) (by omega)]
      cases members with
      | nil => rfl
      | cons next members =>
        have fits : (memberTokens (next :: members)).length ≤ fuel := by
          rw [moreMemberTokens_cons, List.length_cons] at enough
          omega
        have later := takeMembers?_tokens (next :: members) (List.cons_ne_nil _ _) rest fits
        exact congrArg (Option.map _) later

end

mutual

theorem eq_of_take? {fuel : Nat} {tokens rest : List Token} {doc : Doc}
    (read : take? fuel tokens = some (doc, rest)) : tokens = doc.tokens ++ rest := by
  cases fuel with
  | zero => cases read
  | succ fuel =>
    rw [take?.eq_def] at read
    split at read
    case h_7 =>
      simp only [Option.map_eq_some_iff, Prod.mk.injEq] at read
      obtain ⟨⟨items, rest⟩, read, rfl, rfl⟩ := read
      exact congrArg _ (eq_of_takeItems? read).2
    case h_9 =>
      simp only [Option.map_eq_some_iff, Prod.mk.injEq] at read
      obtain ⟨⟨members, rest⟩, read, rfl, rfl⟩ := read
      exact congrArg _ (eq_of_takeMembers? read).2
    case h_1 => cases read
    case h_10 => cases read
    all_goals
      cases read
      rfl

theorem eq_of_takeItems? {fuel : Nat} {tokens rest : List Token} {items : List Doc}
    (read : takeItems? fuel tokens = some (items, rest)) :
    items ≠ [] ∧ tokens = itemTokens items ++ rest := by
  cases fuel with
  | zero => cases read
  | succ fuel =>
    rw [takeItems?] at read
    split at read
    · next first =>
      cases read
      rw [eq_of_take? first, itemTokens, List.append_assoc]
      exact ⟨List.cons_ne_nil _ _, rfl⟩
    · next first =>
      simp only [Option.map_eq_some_iff, Prod.mk.injEq] at read
      obtain ⟨⟨items, rest⟩, read, rfl, rfl⟩ := read
      obtain ⟨nonempty, same⟩ := eq_of_takeItems? read
      refine ⟨List.cons_ne_nil _ _, ?_⟩
      cases items with
      | nil => exact absurd rfl nonempty
      | cons next items =>
        simp only [eq_of_take? first, same, itemTokens, moreItemTokens, List.append_assoc,
          List.cons_append]
    · cases read

theorem eq_of_takeMembers? {fuel : Nat} {tokens rest : List Token} {members : List (Text × Doc)}
    (read : takeMembers? fuel tokens = some (members, rest)) :
    members ≠ [] ∧ tokens = memberTokens members ++ rest := by
  cases fuel with
  | zero => cases read
  | succ fuel =>
    rw [takeMembers?.eq_def] at read
    split at read
    · cases read
    · next same =>
      cases same
      split at read
      · next first =>
        cases read
        rw [eq_of_take? first, memberTokens, List.append_assoc]
        exact ⟨List.cons_ne_nil _ _, rfl⟩
      · next first =>
        simp only [Option.map_eq_some_iff, Prod.mk.injEq] at read
        obtain ⟨⟨members, rest⟩, read, rfl, rfl⟩ := read
        obtain ⟨nonempty, same⟩ := eq_of_takeMembers? read
        refine ⟨List.cons_ne_nil _ _, ?_⟩
        cases members with
        | nil => exact absurd rfl nonempty
        | cons next members =>
          simp only [eq_of_take? first, same, memberTokens, moreMemberTokens, List.append_assoc,
            List.cons_append]
      · cases read
    · cases read

end

/-! ## 2. Numbers in documents stand apart -/

/-- Tokens with no number in front, in which numbers stand apart. -/
def Follows (tokens : List Token) : Prop :=
  Apart tokens ∧ ∀ t ∈ tokens.head?, t.isNumber = false

theorem Follows.cons {t : Token} {rest : List Token} (mark : t.isNumber = false)
    (apart : Apart rest) : Follows (t :: rest) := by
  refine ⟨⟨fun number => ?_, apart⟩, ?_⟩
  · rw [mark] at number
    cases number
  · rintro _ ⟨⟩
    exact mark

mutual

theorem apart_tokens (doc : Doc) {rest : List Token} (follows : Follows rest) :
    Apart (doc.tokens ++ rest) := by
  cases doc with
  | number n => exact ⟨fun _ => follows.2, follows.1⟩
  | array items => exact (Follows.cons rfl (apart_itemTokens items follows)).1
  | object members => exact (Follows.cons rfl (apart_memberTokens members follows)).1
  | _ => exact (Follows.cons rfl follows.1).1

theorem apart_itemTokens (items : List Doc) {rest : List Token} (follows : Follows rest) :
    Apart (itemTokens items ++ rest) := by
  cases items with
  | nil => exact (Follows.cons rfl follows.1).1
  | cons item items =>
    rw [itemTokens, List.append_assoc]
    exact apart_tokens item (apart_moreItemTokens items follows)

theorem apart_moreItemTokens (items : List Doc) {rest : List Token} (follows : Follows rest) :
    Follows (moreItemTokens items ++ rest) := by
  cases items with
  | nil => exact Follows.cons rfl follows.1
  | cons item items =>
    rw [moreItemTokens, List.append_assoc]
    exact Follows.cons rfl (apart_tokens item (apart_moreItemTokens items follows))

theorem apart_memberTokens (members : List (Text × Doc)) {rest : List Token}
    (follows : Follows rest) :
    Apart (memberTokens members ++ rest) := by
  cases members with
  | nil => exact (Follows.cons rfl follows.1).1
  | cons m members =>
    obtain ⟨key, value⟩ := m
    rw [memberTokens, List.append_assoc]
    have later := apart_tokens value (apart_moreMemberTokens members follows)
    have value := (Follows.cons (t := .colon) rfl later).1
    exact (Follows.cons (t := .string key) rfl value).1

theorem apart_moreMemberTokens (members : List (Text × Doc)) {rest : List Token}
    (follows : Follows rest) :
    Follows (moreMemberTokens members ++ rest) := by
  cases members with
  | nil => exact Follows.cons rfl follows.1
  | cons m members =>
    obtain ⟨key, value⟩ := m
    rw [moreMemberTokens, List.append_assoc]
    have later := apart_tokens value (apart_moreMemberTokens members follows)
    have value := (Follows.cons (t := .colon) rfl later).1
    exact Follows.cons rfl (Follows.cons (t := .string key) rfl value).1

end

/-! ## 3. From text -/

variable {doc : Doc} {bytes : List UInt8}

/-- A document is read from the texts that spell it. -/
theorem read?_eq_some_iff : read? bytes = some doc ↔ doc.Spells bytes := by
  constructor
  · intro read
    simp only [read?, Option.bind_eq_bind, Option.bind_eq_some_iff] at read
    obtain ⟨tokens, scanned, read⟩ := read
    split at read
    · next taken =>
      cases read
      have same := eq_of_take? taken
      rw [List.append_nil] at same
      rw [Spells, ← same]
      exact spread_of_tokens? scanned
    · cases read
  · intro spells
    have nothing : Follows [] := ⟨trivial, nofun⟩
    have apart := apart_tokens doc nothing
    have taken := take?_tokens doc [] (Nat.le_refl _)
    rw [List.append_nil] at apart taken
    rw [read?, Spread.tokens?_eq spells apart]
    simp only [Option.bind_eq_bind, Option.bind_some, taken]

/-- A text spells at most one document. -/
theorem Spells.unique {other : Doc} (spells : doc.Spells bytes) (also : other.Spells bytes) :
    doc = other :=
  Option.some.inj ((read?_eq_some_iff.mpr spells).symm.trans (read?_eq_some_iff.mpr also))

/-! ## 4. What is written -/

/-- Whether every token of a document spells itself as it is written. -/
def Writable (doc : Doc) : Prop :=
  ∀ t ∈ doc.tokens, t.Spells t.write

/-- What is written for a document is read again. -/
theorem Writable.read?_write (writable : doc.Writable) : read? doc.write = some doc :=
  read?_eq_some_iff.mpr (spread_write writable)

theorem writable_null : Writable .null :=
  List.forall_mem_singleton.mpr rfl

theorem writable_bool (b : Bool) : Writable (.bool b) :=
  List.forall_mem_singleton.mpr rfl

theorem writable_number {n : Numeral} (spells : n.Spells n.write) : Writable (.number n) :=
  List.forall_mem_singleton.mpr spells

theorem spells_write_string {s : Text} (plain : ∀ p ∈ s, Text.IsPlain p) :
    (Token.string s).Spells (Token.string s).write :=
  ⟨_, Text.spells_write plain, rfl⟩

theorem writable_string {s : Text} (plain : ∀ p ∈ s, Text.IsPlain p) : Writable (.string s) :=
  List.forall_mem_singleton.mpr (spells_write_string plain)

theorem writable_moreItems {items : List Doc} (all : ∀ d ∈ items, d.Writable) :
    ∀ t ∈ moreItemTokens items, t.Spells t.write := by
  induction items with
  | nil => exact List.forall_mem_singleton.mpr rfl
  | cons item items ih =>
    obtain ⟨own, later⟩ := List.forall_mem_cons.mp all
    exact List.forall_mem_cons.mpr ⟨rfl, List.forall_mem_append.mpr ⟨own, ih later⟩⟩

theorem writable_array {items : List Doc} (all : ∀ d ∈ items, d.Writable) :
    Writable (.array items) := by
  refine List.forall_mem_cons.mpr ⟨rfl, ?_⟩
  cases items with
  | nil => exact List.forall_mem_singleton.mpr rfl
  | cons item items => exact (List.forall_mem_cons.mp (writable_moreItems all)).2

theorem writable_moreMembers {members : List (Text × Doc)}
    (all : ∀ m ∈ members, (∀ p ∈ m.1, Text.IsPlain p) ∧ m.2.Writable) :
    ∀ t ∈ moreMemberTokens members, t.Spells t.write := by
  induction members with
  | nil => exact List.forall_mem_singleton.mpr rfl
  | cons m members ih =>
    obtain ⟨own, later⟩ := List.forall_mem_cons.mp all
    refine List.forall_mem_cons.mpr ⟨rfl, List.forall_mem_cons.mpr ⟨spells_write_string own.1, ?_⟩⟩
    exact List.forall_mem_cons.mpr ⟨rfl, List.forall_mem_append.mpr ⟨own.2, ih later⟩⟩

theorem writable_object {members : List (Text × Doc)}
    (all : ∀ m ∈ members, (∀ p ∈ m.1, Text.IsPlain p) ∧ m.2.Writable) :
    Writable (.object members) := by
  refine List.forall_mem_cons.mpr ⟨rfl, ?_⟩
  cases members with
  | nil => exact List.forall_mem_singleton.mpr rfl
  | cons m members => exact (List.forall_mem_cons.mp (writable_moreMembers all)).2

end TaskQueue.Json.Doc
