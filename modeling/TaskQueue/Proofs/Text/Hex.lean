import Mathlib.Algebra.Ring.Nat
import Mathlib.Data.List.Induction
import TaskQueue.Text.Hex

/-!
# Hexadecimal digits

Results:
1. `value?_eq_some_iff`: a character is a digit of a value if and only if its lower case is the
   written digit.
2. `read?_eq_some_iff`: a text is read as a number if and only if its lower case is what is written
   for the number in that width.
-/

namespace TaskQueue.Hex

/-! ## 1. Digits -/

/-- The digits of both cases, one value after the other. -/
theorem value?_ascii : ∀ n : Fin 128, ∀ v : Fin 16,
    value? (Char.ofNat n) = some v.val ↔ (Char.ofNat n).toLower = digit v.val := by
  decide +kernel

theorem value?_ascii_lt : ∀ n : Fin 128, ∀ v ∈ value? (Char.ofNat n), v < 16 := by
  decide +kernel

theorem digit_lt : ∀ v : Fin 16, (digit v.val).toNat < 128 := by
  decide

/-- Only characters below U+0080 are digits. -/
theorem value?_eq_none {c : Char} (wide : 128 ≤ c.toNat) : value? c = none := by
  have above : ∀ d : Char, d.toNat < 128 → ¬ c ≤ d := by
    intro d low less
    rw [Char.le_def, UInt32.le_iff_toNat_le] at less
    exact absurd (Nat.le_trans wide less) (Nat.not_le.mpr low)
  unfold value?
  rw [if_neg (fun h => above '9' (by decide) h.2), if_neg (fun h => above 'f' (by decide) h.2),
    if_neg (fun h => above 'F' (by decide) h.2)]

theorem toLower_of_wide {c : Char} (wide : 128 ≤ c.toNat) : c.toLower = c := by
  unfold Char.toLower
  rw [dif_neg]
  rintro ⟨-, high⟩
  have bound : c.toNat ≤ 90 := UInt32.le_iff_toNat_le.mp high
  omega

theorem value?_lt {c : Char} {v : Nat} (read : value? c = some v) : v < 16 := by
  by_cases wide : 128 ≤ c.toNat
  · rw [value?_eq_none wide] at read
    cases read
  · have ascii := value?_ascii_lt ⟨c.toNat, Nat.not_le.mp wide⟩ v
    simp only [Char.ofNat_toNat] at ascii
    exact ascii read

/-- A character is the digit of a value if its lower case is what is written for the value. -/
theorem value?_eq_some_iff {c : Char} {v : Nat} (small : v < 16) :
    value? c = some v ↔ c.toLower = digit v := by
  by_cases wide : 128 ≤ c.toNat
  · rw [value?_eq_none wide, toLower_of_wide wide]
    refine iff_of_false nofun ?_
    rintro rfl
    exact absurd (digit_lt ⟨v, small⟩) (Nat.not_lt.mpr wide)
  · have ascii := value?_ascii ⟨c.toNat, Nat.not_le.mp wide⟩ ⟨v, small⟩
    simpa only [Char.ofNat_toNat] using ascii

/-! ## 2. Texts -/

@[simp] theorem length_write (width n : Nat) : (write width n).length = width := by
  induction width generalizing n with
  | zero => rfl
  | succ width ih => simp [write, ih]

theorem readFrom_append (seen : Nat) (front back : List Char) :
    readFrom seen (front ++ back) = (readFrom seen front).bind (readFrom · back) := by
  induction front generalizing seen with
  | nil => rfl
  | cons c front ih =>
    simp only [List.cons_append, readFrom, Option.bind_eq_bind]
    cases value? c with
    | none => rfl
    | some v => exact ih _

/-- A text is read as a number if its lower case is what is written for that number. The last digit
is written last, so the induction is from the end. -/
theorem read?_eq_some_iff {text : List Char} {n : Nat} :
    read? text = some n ↔ n < 16 ^ text.length ∧ text.map Char.toLower = write text.length n := by
  induction text using List.reverseRecOn generalizing n with
  | nil =>
    simp only [read?, readFrom, Option.some.injEq, List.length_nil, pow_zero, Nat.lt_one_iff,
      List.map_nil, write, and_true]
    exact eq_comm
  | append_singleton front c ih =>
    have last : read? (front ++ [c]) =
        (read? front).bind fun m => (value? c).map (16 * m + ·) := by
      rw [read?, readFrom_append]
      cases value : value? c <;> simp [readFrom, value, read?]
    rw [last, Option.bind_eq_some_iff]
    simp only [Option.map_eq_some_iff, List.map_append, List.map_cons, List.map_nil,
      List.length_append, List.length_cons, List.length_nil, Nat.zero_add, pow_succ, write]
    constructor
    · rintro ⟨m, read, v, value, rfl⟩
      obtain ⟨bound, lower⟩ := ih.mp read
      have small := value?_lt value
      have quotient : (16 * m + v) / 16 = m := by omega
      have remainder : (16 * m + v) % 16 = v := by omega
      rw [quotient, remainder, lower, (value?_eq_some_iff small).mp value]
      exact ⟨by omega, rfl⟩
    · rintro ⟨bound, lower⟩
      obtain ⟨digits, final⟩ := List.append_inj' lower rfl
      have small : n % 16 < 16 := Nat.mod_lt _ (by decide)
      refine ⟨n / 16, ih.mpr ⟨by omega, digits⟩, n % 16, ?_, by omega⟩
      exact (value?_eq_some_iff small).mpr (List.singleton_inj.mp final)

theorem lower_digit : ∀ v : Fin 16, (digit v.val).toLower = digit v.val := by
  decide

theorem lower_write (width n : Nat) : (write width n).map Char.toLower = write width n := by
  induction width generalizing n with
  | zero => rfl
  | succ width ih =>
    have small : n % 16 < 16 := Nat.mod_lt _ (by decide)
    simp [write, ih, lower_digit ⟨n % 16, small⟩]

/-- What is written is read again. -/
theorem read?_write {width n : Nat} (small : n < 16 ^ width) :
    read? (write width n) = some n := by
  rw [read?_eq_some_iff, length_write]
  exact ⟨small, lower_write width n⟩

/-- Every written character is a digit in ASCII. -/
theorem lt_of_mem_write {width n : Nat} {c : Char} (member : c ∈ write width n) :
    c.toNat < 128 := by
  induction width generalizing n with
  | zero => cases member
  | succ width ih =>
    rcases List.mem_append.mp member with front | last
    · exact ih front
    · obtain rfl := List.mem_singleton.mp last
      exact digit_lt ⟨n % 16, Nat.mod_lt _ (by decide)⟩

end TaskQueue.Hex
