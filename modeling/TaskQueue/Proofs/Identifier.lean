import TaskQueue.Identifier
import TaskQueue.Proofs.Text.Hex

/-!
# The spellings of an identifier

Results:
1. `ofDigits?_eq_some_iff`, `ofHyphenated?_eq_some_iff`: digits are read in either case, and hyphens
   only where they are written.
2. `ofText?_eq_some_iff`: exactly four spellings of an identifier are read, and `ofText?_text`: the
   written one is among them.
-/

namespace TaskQueue.TaskId

variable {id : TaskId} {digits chars : List Char} {text : String}

/-! ## 1. Digits and hyphens -/

theorem toNat_lt (id : TaskId) : id.toNat < 16 ^ 32 :=
  id.bits.isLt

@[simp] theorem length_digits (id : TaskId) : id.digits.length = 32 :=
  Hex.length_write 32 _

/-- Thirty-two digits in either case are an identifier. -/
theorem ofDigits?_eq_some_iff :
    ofDigits? digits = some id ↔ digits.map Char.toLower = id.digits := by
  unfold ofDigits?
  constructor
  · intro read
    split at read
    · next long =>
      obtain ⟨n, value, rfl⟩ := Option.map_eq_some_iff.mp read
      obtain ⟨bound, lower⟩ := Hex.read?_eq_some_iff.mp value
      rw [long] at bound lower
      have fits : n < 2 ^ 128 := Nat.lt_of_lt_of_eq bound (by decide)
      rw [lower, TaskId.digits, toNat, ofNat, BitVec.toNat_ofNat, Nat.mod_eq_of_lt fits]
    · cases read
  · intro lower
    have long : digits.length = 32 := by
      rw [← List.length_map (f := Char.toLower), lower, length_digits]
    have value : Hex.read? digits = some id.toNat := by
      rw [Hex.read?_eq_some_iff, long]
      exact ⟨toNat_lt id, lower⟩
    rw [if_pos long, value, Option.map_some, ofNat, toNat, BitVec.ofNat_toNat, BitVec.setWidth_eq]

/-- The groups of thirty-two digits. -/
theorem groups_of_length (long : digits.length = 32) : ∃ a b c d e : List Char,
    a.length = 8 ∧ b.length = 4 ∧ c.length = 4 ∧ d.length = 4 ∧ e.length = 12 ∧
      digits = a ++ (b ++ (c ++ (d ++ e))) := by
  refine ⟨digits.take 8, (digits.drop 8).take 4, (digits.drop 12).take 4, (digits.drop 16).take 4,
    digits.drop 20, by simp [long], by simp [long], by simp [long], by simp [long],
    by simp [long], ?_⟩
  have join : ∀ n, (digits.drop n).take 4 ++ digits.drop (n + 4) = digits.drop n := by
    intro n
    rw [← List.drop_drop, List.take_append_drop]
  rw [join 16, join 12, join 8, List.take_append_drop]

theorem hyphenate_groups {a b c d e : List Char} (la : a.length = 8) (lb : b.length = 4)
    (lc : c.length = 4) (ld : d.length = 4) : hyphenate (a ++ (b ++ (c ++ (d ++ e)))) =
      a ++ '-' :: (b ++ '-' :: (c ++ '-' :: (d ++ '-' :: e))) := by
  simp [hyphenate, List.drop_append, List.drop_of_length_le, la, lb, lc, ld]

theorem length_hyphenate (long : digits.length = 32) : (hyphenate digits).length = 36 := by
  obtain ⟨a, b, c, d, e, la, lb, lc, ld, le, rfl⟩ := groups_of_length long
  rw [hyphenate_groups la lb lc ld]
  simp [la, lb, lc, ld, le]

/-- Taking the hyphens away again. -/
theorem bare_hyphenate (long : digits.length = 32) :
    (hyphenate digits).take 8 ++ ((hyphenate digits).drop 9).take 4 ++
      ((hyphenate digits).drop 14).take 4 ++ ((hyphenate digits).drop 19).take 4 ++
      (hyphenate digits).drop 24 = digits := by
  obtain ⟨a, b, c, d, e, la, lb, lc, ld, le, rfl⟩ := groups_of_length long
  rw [hyphenate_groups la lb lc ld]
  simp [List.drop_append, List.drop_of_length_le, la, lb, lc, ld]

theorem length_of_lower (lower : digits.map Char.toLower = id.digits) : digits.length = 32 := by
  rw [← List.length_map (f := Char.toLower), lower, length_digits]

/-- Hyphens are read where they are written, and nowhere else. -/
theorem ofHyphenated?_eq_some_iff : ofHyphenated? chars = some id ↔
    ∃ digits, digits.map Char.toLower = id.digits ∧ chars = hyphenate digits := by
  unfold ofHyphenated?
  constructor
  · intro read
    simp only at read
    split at read
    · next hyphens => exact ⟨_, ofDigits?_eq_some_iff.mp read, hyphens.symm⟩
    · cases read
  · rintro ⟨digits, lower, rfl⟩
    simp only [bare_hyphenate (length_of_lower lower), if_true]
    exact ofDigits?_eq_some_iff.mpr lower

/-! ## 2. Spellings -/

/-- The four spellings of the same digits. -/
inductive Spelling (digits : List Char) : List Char → Prop
  | bare : Spelling digits digits
  | hyphenated : Spelling digits (hyphenate digits)
  | braced : Spelling digits ('{' :: (hyphenate digits ++ ['}']))
  | named {name : List Char} : name ∈ urnPrefixes → Spelling digits (name ++ hyphenate digits)

/-- A text spells an identifier: it has its digits, each in either case. -/
def SpelledBy (id : TaskId) (text : String) : Prop :=
  ∃ digits, digits.map Char.toLower = id.digits ∧ Spelling digits text.toList

theorem length_of_urn {name : List Char} (member : name ∈ urnPrefixes) : name.length = 9 := by
  have all : ∀ name ∈ urnPrefixes, name.length = 9 := by decide
  exact all name member

/-- A text is read as an identifier if and only if it spells it. -/
theorem ofText?_eq_some_iff : ofText? text = some id ↔ id.SpelledBy text := by
  unfold ofText? SpelledBy
  generalize text.toList = chars
  constructor
  · intro read
    simp only at read
    split at read
    · exact ⟨chars, ofDigits?_eq_some_iff.mp read, .bare⟩
    · obtain ⟨digits, lower, rfl⟩ := ofHyphenated?_eq_some_iff.mp read
      exact ⟨digits, lower, .hyphenated⟩
    · split at read
      · next braces =>
        obtain ⟨digits, lower, inside⟩ := ofHyphenated?_eq_some_iff.mp read
        obtain ⟨rest, rfl⟩ := List.head?_eq_some_iff.mp braces.1
        obtain ⟨front, whole⟩ := List.getLast?_eq_some_iff.mp braces.2
        cases front with
        | nil => simp at whole
        | cons first front =>
          simp only [List.cons_append, List.cons.injEq] at whole
          obtain ⟨-, rfl⟩ := whole
          rw [List.drop_one, List.tail_cons, List.dropLast_concat] at inside
          exact ⟨digits, lower, inside ▸ .braced⟩
      · cases read
    · split at read
      · next named =>
        obtain ⟨digits, lower, behind⟩ := ofHyphenated?_eq_some_iff.mp read
        refine ⟨digits, lower, ?_⟩
        rw [← List.take_append_drop 9 chars, behind]
        exact .named named
      · cases read
    · cases read
  · rintro ⟨digits, lower, spelling⟩
    have long := length_of_lower lower
    have hyphenated : ofHyphenated? (hyphenate digits) = some id :=
      ofHyphenated?_eq_some_iff.mpr ⟨digits, lower, rfl⟩
    cases spelling with
    | bare =>
      simp only [long]
      exact ofDigits?_eq_some_iff.mpr lower
    | hyphenated => simpa only [length_hyphenate long] using hyphenated
    | braced =>
      have length : ('{' :: (hyphenate digits ++ ['}'])).length = 38 := by
        simp [length_hyphenate long]
      have last : ('{' :: (hyphenate digits ++ ['}'])).getLast? = some '}' := by
        rw [← List.cons_append, List.getLast?_concat]
      simpa [length, last] using hyphenated
    | @named name member =>
      have nine := length_of_urn member
      have length : (name ++ hyphenate digits).length = 45 := by
        rw [List.length_append, nine, length_hyphenate long]
      simp only [length, List.take_left' nine, List.drop_left' nine, member, if_true]
      exact hyphenated

/-- The written form of an identifier spells it. -/
theorem spelledBy_text (id : TaskId) : id.SpelledBy id.text := by
  refine ⟨id.digits, Hex.lower_write 32 _, ?_⟩
  rw [text, String.toList_ofList]
  exact .hyphenated

@[simp] theorem ofText?_text (id : TaskId) : ofText? id.text = some id :=
  ofText?_eq_some_iff.mpr (spelledBy_text id)

end TaskQueue.TaskId
