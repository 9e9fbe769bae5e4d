import TaskQueue.Proofs.Cursor.Splitting

/-!
# The offsets of the parts in 64 bits

The rows of each part are the total divided by the number of parts, rounded up. Their multiples are
the offsets of the parts, and they are cut to the total only after the multiplication. With almost as
many rows as 64 bits can count, the end of the last part is a number that 64 bits do not hold.

Results:
1. `fits_iff`, `not_fits_iff`: how many rows are too many.
2. `ranges_checked`: the ranges are what products give that are checked one by one.
3. `split_overflows_iff`: splitting a new cursor, whatever its source counts and its settings are.
-/

namespace TaskQueue.Cursor

variable {σ α : Type} {settings : CursorSettings} {total size n : Nat}

/-! ## 1. Products -/

/-- The offsets of all parts fit 64 bits, before they are cut to the total. -/
def Fits (settings : CursorSettings) (total : Nat) : Prop :=
  ∀ i < chunks settings total, i * chunkSize settings total < offsetLimit ∧
    (i + 1) * chunkSize settings total < offsetLimit

theorem chunks_pos (settings : CursorSettings) (total : Nat) : 0 < chunks settings total := by
  unfold chunks
  split <;> decide

/-- The last offset is the largest one. -/
theorem fits_iff : Fits settings total ↔
    chunks settings total * chunkSize settings total < offsetLimit := by
  constructor
  · intro fits
    have last := (fits (chunks settings total - 1) (Nat.sub_one_lt_of_lt (chunks_pos _ _))).2
    rwa [Nat.sub_add_cancel (chunks_pos settings total)] at last
  · intro fits i inside
    have upTo {k : Nat} (le : k ≤ chunks settings total) :
        k * chunkSize settings total < offsetLimit :=
      Nat.lt_of_le_of_lt (Nat.mul_le_mul_right _ le) fits
    exact ⟨upTo (Nat.le_of_lt inside), upTo inside⟩

/-- Two parts overflow with the largest number of rows, four parts with the three largest ones. -/
theorem not_fits_iff (counted : total < UInt64.size) : ¬ Fits settings total ↔
    if total ≤ settings.fourWayThreshold.toNat then total = 2 ^ 64 - 1 else 2 ^ 64 - 3 ≤ total := by
  have limit : offsetLimit = 2 ^ 64 := rfl
  have below : total < 2 ^ 64 := counted
  rw [fits_iff, limit]
  unfold chunkSize chunks
  split
  · omega
  · omega

/-! ## 2. Checked products -/

/-- A product, if 64 bits hold it. -/
def product (a b : Nat) : Except Failure Nat :=
  if offsetLimit ≤ a * b then .error .overflow else .ok (a * b)

/-- The offsets of one part. -/
def offsets (total size i : Nat) : Except Failure (Nat × Nat) := do
  let first ← product i size
  let last ← product (i + 1) size
  return (first, min last total)

theorem offsets_eq (total size i : Nat) : offsets total size i =
    if offsetLimit ≤ (i + 1) * size then .error .overflow
    else .ok (i * size, min ((i + 1) * size) total) := by
  have less : i * size ≤ (i + 1) * size := Nat.mul_le_mul_right _ (Nat.le_succ i)
  unfold offsets product
  by_cases large : offsetLimit ≤ (i + 1) * size
  · rw [if_pos large, if_pos large]
    split <;> rfl
  · have fits : ¬ offsetLimit ≤ i * size := fun first => large (Nat.le_trans first less)
    rw [if_neg large, if_neg large, if_neg fits]
    rfl

/-- The parts are an overflow if the end of the last one does not fit. -/
theorem mapM_offsets (total size n : Nat) : (List.range n).mapM (offsets total size) =
    if offsetLimit ≤ n * size then .error .overflow
    else .ok ((List.range n).map fun i => (i * size, min ((i + 1) * size) total)) := by
  induction n with
  | zero =>
    rw [Nat.zero_mul, if_neg (by decide)]
    rfl
  | succ n ih =>
    have less : n * size ≤ (n + 1) * size := Nat.mul_le_mul_right _ (Nat.le_succ n)
    rw [List.range_succ, List.mapM_append, ih, List.mapM_cons, List.mapM_nil, offsets_eq]
    by_cases before : offsetLimit ≤ n * size
    · simp only [if_pos before, if_pos (Nat.le_trans before less)]
      rfl
    · rw [if_neg before]
      split
      · rfl
      · rw [List.map_append]
        rfl

/-- The ranges come from products that are checked one by one. -/
theorem ranges_checked (settings : CursorSettings) (total : Nat) :
    ranges settings total = ((List.range (chunks settings total)).mapM
      (offsets total (chunkSize settings total))).map (List.filter fun r => r.1 < r.2) := by
  rw [mapM_offsets]
  simp only [ranges]
  split <;> rfl

/-- One of them overflows just if an offset does not fit 64 bits. -/
theorem ranges_cases (settings : CursorSettings) (total : Nat) :
    Fits settings total ∧ (∃ rs, ranges settings total = .ok rs ∧ Consecutive rs total) ∨
      ¬ Fits settings total ∧ ranges settings total = .error .overflow := by
  rw [fits_iff]
  rcases ranges_consecutive settings total with ⟨rs, divided, consecutive, -⟩ | ⟨overflow, -⟩
  · refine .inl ⟨?_, rs, divided, consecutive⟩
    by_contra large
    rw [ranges, if_pos (Nat.le_of_not_lt large)] at divided
    cases divided
  · refine .inr ⟨?_, overflow⟩
    intro fits
    rw [ranges, if_neg (Nat.not_le_of_lt fits)] at overflow
    cases overflow

/-! ## 3. Splitting -/

/-- A new cursor is split, over a source that counts any number of rows that 64 bits hold and with
any settings. It overflows just if the rows are enough for a split and one of the offsets does not
fit 64 bits, which is so for the largest number of rows when there are two parts, and for the three
largest ones when there are four. Otherwise it is its own only part, or the ranges of its parts
follow on each other from the first row to the last, and none of them is empty. -/
theorem split_overflows_iff (source : Source (StateM σ) α) (settings : CursorSettings) (s : σ)
    {n : Nat} (counted : (source.count.run s).1 = .ok n) (number : n < UInt64.size) :
    let answer := (((new settings).split source).run s).1
    (answer = .error .overflow ↔
      settings.parallelThreshold.toNat ≤ n ∧ ¬ Fits settings n) ∧
    (¬ Fits settings n ↔
      if n ≤ settings.fourWayThreshold.toNat then n = 2 ^ 64 - 1 else 2 ^ 64 - 3 ≤ n) ∧
    (n < settings.parallelThreshold.toNat → answer = .ok [{ new settings with size := some n }]) ∧
    (settings.parallelThreshold.toNat ≤ n → Fits settings n →
      ∃ rs, answer = .ok (rs.map fun r => between settings r.1 r.2) ∧ Consecutive rs n ∧
        ∀ r ∈ rs, r.1 < r.2 ∧ r.2 ≤ n) := by
  intro answer
  have split : answer = if n < settings.parallelThreshold.toNat then
        .ok [{ new settings with size := some n }]
      else (ranges settings n).map (List.map fun r => between settings r.1 r.2) :=
    split_measured rfl rfl (measure_count rfl rfl counted)
  refine ⟨?_, not_fits_iff number, fun few => by rw [split, if_pos few], ?_⟩
  · by_cases few : n < settings.parallelThreshold.toNat
    · rw [split, if_pos few]
      exact iff_of_false nofun fun large => Nat.not_le_of_lt few large.1
    · rw [split, if_neg few]
      rcases ranges_cases settings n with ⟨fits, rs, divided, -⟩ | ⟨large, overflow⟩
      · rw [divided]
        exact iff_of_false nofun fun large => large.2 fits
      · rw [overflow]
        exact iff_of_true rfl ⟨Nat.le_of_not_lt few, large⟩
  · intro enough fits
    rw [split, if_neg (Nat.not_lt_of_le enough)]
    rcases ranges_cases settings n with ⟨-, rs, divided, consecutive⟩ | ⟨large, -⟩
    · rw [divided]
      exact ⟨rs, rfl, consecutive, consecutive.inside⟩
    · exact absurd fits large

/-- So many rows without anything in them. -/
def blanks (n : Nat) : Source (StateM Unit) Unit :=
  ⟨pure (.ok n), fun offset limit => pure (.ok (List.replicate (min limit (n - offset)) ()))⟩

/-- Two parts overflow with the largest number of rows, and have ranges with one row less. -/
theorem split_overflows_iff_largest :
    let settings : CursorSettings := ⟨2, 1, 18446744073709551615⟩
    let most := 2 ^ 64 - 1
    (((blanks most).count.run ()).1 = .ok most ∧ most < UInt64.size) ∧
      (((new settings).split (blanks most)).run ()).1 = .error .overflow ∧
      Fits settings (most - 1) ∧
      ∃ rs, (((new settings).split (blanks (most - 1))).run ()).1 =
          .ok (rs.map fun r => between settings r.1 r.2) ∧
        Consecutive rs (most - 1) := by
  intro settings most
  have number : most < UInt64.size := by decide
  have less : most - 1 < UInt64.size := by decide
  have large : settings.parallelThreshold.toNat ≤ most := by decide
  obtain ⟨overflows, many, -⟩ := split_overflows_iff (blanks most) settings () rfl number
  obtain ⟨-, fewer, -, divides⟩ := split_overflows_iff (blanks (most - 1)) settings () rfl less
  have tooMany : ¬ Fits settings most := by
    rw [many, if_pos (by decide)]
  have fits : Fits settings (most - 1) := by
    by_contra large
    rw [fewer, if_pos (by decide)] at large
    exact absurd large (by decide)
  obtain ⟨rs, divided, consecutive, -⟩ := divides (by decide) fits
  exact ⟨⟨rfl, number⟩, overflows.mpr ⟨large, tooMany⟩, fits, rs, divided, consecutive⟩

end TaskQueue.Cursor
