import TaskQueue.Proofs.Cursor.Reading

/-!
# Splitting a cursor

The parts of a cursor cover all of its rows, from the first one on, whatever was read before. So they
are a partition of the rows of a cursor that was not read, and repeat what was read of any other.

Results:
1. `collects_left`: a source that never fails gives all rows that a cursor has left.
2. `Run.divides`: whether a cursor is split, and into which parts.
3. `Run.split_partitions`: the parts of a cursor that was not read yet.
4. `Run.split_repeats_iff`: when rows that were read come again.
-/

namespace TaskQueue

variable {σ α : Type}

/-- A source of some rows that never fails. -/
structure Source.Consistent (source : Source (StateM σ) α) (rows : List α) : Prop where
  count : ∀ s, (source.count.run s).1 = .ok rows.length
  fetch : ∀ offset limit s,
    ((source.fetch offset limit).run s).1 = .ok ((rows.drop offset).take limit)

/-- Rows in memory as a source. -/
def Source.ofRows (rows : List α) : Source (StateM Unit) α :=
  ⟨pure (.ok rows.length), fun offset limit => pure (.ok ((rows.drop offset).take limit))⟩

theorem Source.consistent_ofRows (rows : List α) : (Source.ofRows rows).Consistent rows :=
  ⟨fun _ => rfl, fun _ _ _ => rfl⟩

theorem Source.Consistent.serves {source : Source (StateM σ) α} {rows : List α}
    (consistent : source.Consistent rows) : source.Serves rows := by
  intro offset limit s page fetched
  rw [consistent.fetch] at fetched
  exact (Except.ok.inj fetched).symm

namespace Cursor

variable {source : Source (StateM σ) α} {rows : List α} {cur : Cursor α}
  {settings : CursorSettings} {answers : List (Except Failure (Option α))}

/-! ## 1. Reading to the end -/

/-- Reading a cursor to its end gives some rows, whatever the state of the source. -/
def Collects (source : Source (StateM σ) α) (cur : Cursor α) (read : List α) : Prop :=
  ∀ bound ≥ read.length, ∀ s, ((cur.collect source bound).run s).1 = .ok read

theorem collects_left (consistent : source.Consistent rows) (cur : Cursor α) :
    Collects source cur (cur.left rows) := by
  intro bound
  induction bound generalizing cur with
  | zero =>
    intro enough s
    rw [List.eq_nil_of_length_eq_zero (Nat.le_zero.mp enough)]
    rfl
  | succ bound ih =>
    intro enough s
    have gives := next_gives consistent.serves cur s
    rw [collect, answer_bind]
    generalize ((cur.next source).run s).2 = s'
    cases called : ((cur.next source).run s).1 with
    | mk answer next =>
      rw [called] at gives
      cases gives with
      | @row row _ left _ _ =>
        rw [left, List.length_cons] at enough
        rw [left]
        simp only [answer_bind, ih next (Nat.le_of_succ_le_succ enough) s']
        rfl
      | ended nothing _ _ _ =>
        rw [nothing]
        rfl
      | failed _ _ _ fetched =>
        rw [consistent.fetch] at fetched
        cases fetched

/-! ## 2. Splitting -/

/-- What is known of the number of rows is right. -/
def Known (rows : List α) (cur : Cursor α) : Prop :=
  cur.size = none ∨ cur.size = some rows.length

/-- A count that comes is the answer, and is remembered. -/
theorem measure_count (opened : cur.closed = false) (unknown : cur.size = none) {s : σ} {n : Nat}
    (counted : (source.count.run s).1 = .ok n) :
    ((cur.measure source).run s).1 = (.ok n, { cur with size := some n }) := by
  rw [measure_asks opened unknown, counted]
  rfl

/-- An open cursor over all rows counts them, or remembers their number. -/
theorem measure_open (consistent : source.Consistent rows) (opened : cur.closed = false)
    (known : cur.Known rows) (s : σ) :
    ((cur.measure source).run s).1 = (.ok rows.length, { cur with size := some rows.length }) := by
  rcases known with unknown | counted
  · exact measure_count opened unknown (consistent.count s)
  · rw [measure, counted]
    simp only [← counted]
    rfl

/-- A cursor with so many rows would be split if they are enough. -/
theorem splits_measured (whole : cur.range = none) (opened : cur.closed = false) {s : σ} {n : Nat}
    (measured : ((cur.measure source).run s).1 = (.ok n, { cur with size := some n })) :
    ((cur.splits source).run s).1 =
      (.ok (cur.settings.parallelThreshold.toNat ≤ n : Bool), { cur with size := some n }) := by
  rw [splits]
  simp only [whole, opened, Option.isSome_none, Bool.or_self, Bool.false_eq_true, if_false,
    answer_bind, measured]
  rfl

/-- A part of a cursor would not be split again, nor would a closed cursor. -/
theorem splits_final (source : Source (StateM σ) α)
    (final : (cur.range.isSome || cur.closed) = true) (s : σ) :
    ((cur.splits source).run s).1 = (.ok false, cur) := by
  rw [splits, if_pos final]
  rfl

theorem Run.known (consistent : source.Consistent rows)
    (run : Run source (new settings) answers cur) (opened : cur.closed = false) :
    cur.Known rows := by
  induction run with
  | nil => exact .inl rfl
  | @next _ cur s _ ih =>
    have gives := next_gives consistent.serves cur s
    generalize ((cur.next source).run s).1.1 = answer at gives
    generalize ((cur.next source).run s).1.2 = after at gives opened ⊢
    cases gives with
    | row _ same passes =>
      rw [same] at opened
      rw [Known, passes.size]
      exact ih opened
    | ended _ _ closed _ =>
      rw [closed] at opened
      cases opened
    | failed _ _ _ _ => exact ih opened
  | @measure _ cur s _ ih =>
    obtain ⟨size, counted⟩ := measure_size source cur s
    rw [counted] at opened
    rw [measure_open consistent (show cur.closed = false from opened) (ih opened)]
    exact .inr rfl
  | @splits _ cur s _ ih =>
    obtain ⟨size, counted⟩ := splits_size source cur s
    rw [counted] at opened
    cases whole : cur.range with
    | none =>
      have opened : cur.closed = false := opened
      rw [splits_measured whole opened (measure_open consistent opened (ih opened) s)]
      exact .inr rfl
    | some ends =>
      rw [splits_final source (by rw [whole]; rfl)]
      exact ih opened

/-- The parts of a cursor with so many rows: the cursor itself, or those over the ranges of all
rows. -/
theorem split_measured (whole : cur.range = none) (opened : cur.closed = false) {s : σ} {n : Nat}
    (measured : ((cur.measure source).run s).1 = (.ok n, { cur with size := some n })) :
    ((cur.split source).run s).1 =
      if n < cur.settings.parallelThreshold.toNat then .ok [{ cur with size := some n }]
      else (ranges cur.settings n).map (List.map fun r => between cur.settings r.1 r.2) := by
  let remembers : Cursor α := { cur with size := some n }
  have counted (s : σ) : ((remembers.measure source).run s).1 = (.ok n, remembers) := rfl
  by_cases few : n < cur.settings.parallelThreshold.toNat
  · rw [split, if_pos few]
    simp only [answer_bind, splits_measured whole opened measured,
      decide_eq_false (Nat.not_le_of_lt few)]
    rfl
  · rw [split, if_neg few]
    simp only [answer_bind, splits_measured whole opened measured,
      decide_eq_true (Nat.le_of_not_lt few)]
    rw [counted]
    rfl

theorem split_final (source : Source (StateM σ) α)
    (final : (cur.range.isSome || cur.closed) = true) (s : σ) :
    ((cur.split source).run s).1 = .ok [cur] := by
  rw [split]
  simp only [answer_bind, splits_final source final]
  rfl

/-- What a cursor over all rows answers when it is asked for its parts. -/
inductive Divides (rows : List α) (cur : Cursor α) : Except Failure (List (Cursor α)) → Prop
  | closed : cur.closed = true → Divides rows cur (.ok [cur])
  | few : cur.closed = false → rows.length < cur.settings.parallelThreshold.toNat →
      Divides rows cur (.ok [{ cur with size := some rows.length }])
  | parts {rs : List (Nat × Nat)} : cur.closed = false →
      cur.settings.parallelThreshold.toNat ≤ rows.length → Consecutive rs rows.length →
      rs.length ≤ chunks cur.settings rows.length →
      Divides rows cur (.ok (rs.map fun r => between cur.settings r.1 r.2))
  | overflow : cur.closed = false → cur.settings.parallelThreshold.toNat ≤ rows.length →
      UInt64.size ≤ rows.length + 3 → Divides rows cur (.error .overflow)

theorem Run.divides (consistent : source.Consistent rows) (somePage : settings.pageSize ≠ 0)
    (run : Run source (new settings) answers cur) (s : σ) :
    Divides rows cur ((cur.split source).run s).1 := by
  have stands : Stands settings none rows answers cur := run.stands consistent.serves somePage
  cases closed : cur.closed with
  | true =>
    rw [split_final source (by rw [closed, Bool.or_true])]
    exact .closed closed
  | false =>
    rw [split_measured stands.bounded closed
      (measure_open consistent closed (run.known consistent closed) s)]
    split
    · next few => exact .few closed few
    · next enough =>
      have enough := Nat.le_of_not_lt enough
      rcases ranges_consecutive cur.settings rows.length with
        ⟨rs, divided, consecutive, length⟩ | ⟨overflow, large⟩
      · rw [divided]
        exact .parts closed enough consecutive length
      · rw [overflow]
        exact .overflow closed enough large

/-! ## 3. Parts -/

/-- Cursors that divide all rows among them. -/
structure Partition (source : Source (StateM σ) α) (rows : List α) (parts : List (Cursor α)) :
    Prop where
  /-- Their ranges follow on each other from zero to the number of rows. -/
  ranges : ∃ rs, Consecutive rs rows.length ∧ parts.map Cursor.range = rs.map some
  /-- None of them is empty, and their sizes add up. -/
  sizes : ∃ sizes, List.Forall₂
      (fun part size => size ≠ 0 ∧ ∀ s, ((part.measure source).run s).1.1 = .ok size)
      parts sizes ∧ sizes.sum = rows.length
  /-- None of them can be split again. -/
  final : ∀ part ∈ parts, ∀ s, ((part.splits source).run s).1.1 = .ok false ∧
    ((part.split source).run s).1 = .ok [part]

theorem partition_between (settings : CursorSettings) {rs : List (Nat × Nat)}
    (consecutive : Consecutive rs rows.length) :
    Partition source rows (rs.map fun r => between settings r.1 r.2) := by
  obtain ⟨some, sum⟩ := consecutive.sizes
  refine ⟨⟨rs, consecutive, List.map_map⟩, ⟨rs.map fun r => r.2 - r.1, ?_, sum⟩, ?_⟩
  · rw [List.forall₂_map_left_iff, List.forall₂_map_right_iff, List.forall₂_same]
    exact fun r member => ⟨some r member, fun _ => rfl⟩
  · intro part member s
    obtain ⟨r, -, rfl⟩ := List.mem_map.mp member
    exact ⟨by rw [splits_final source (by rfl)], split_final source rfl s⟩

/-- Together they give all rows. -/
theorem collects_between (consistent : source.Consistent rows) (somePage : settings.pageSize ≠ 0)
    {rs : List (Nat × Nat)} (consecutive : Consecutive rs rows.length) :
    ∃ reads, List.Forall₂ (Collects source) (rs.map fun r => between settings r.1 r.2) reads ∧
      reads.flatten = rows := by
  refine ⟨rs.map fun r => (rows.take r.2).drop r.1, ?_, ?_⟩
  · rw [List.forall₂_map_left_iff, List.forall₂_map_right_iff, List.forall₂_same]
    intro r _
    have left : (between settings r.1 r.2).left rows = (rows.take r.2).drop r.1 :=
      (owed_between rows settings r.1 r.2).trans (if_neg somePage)
    rw [← left]
    exact collects_left consistent _
  · rw [← List.flatMap_def, consecutive.cover, List.take_length]

/-- A cursor that was not asked for any row yet is split. It is its own only part if and only if there
are fewer rows than the threshold for a split. Otherwise it has at most two parts, or four if there
are more rows than that takes, and they divide all rows among them. One after another the parts give
the rows that the cursor itself would give. -/
theorem Run.split_partitions (consistent : source.Consistent rows)
    (somePage : settings.pageSize ≠ 0) (fit : rows.length ≤ UInt64.size - 4)
    (run : Run source (new settings) [] cur) (s : σ) :
    ∃ parts reads, ((cur.split source).run s).1 = .ok parts ∧
      (parts = [{ cur with size := some rows.length }] ↔
        rows.length < settings.parallelThreshold.toNat) ∧
      (settings.parallelThreshold.toNat ≤ rows.length →
        parts.length ≤ (if rows.length ≤ settings.fourWayThreshold.toNat then 2 else 4) ∧
          Partition source rows parts) ∧
      List.Forall₂ (Collects source) parts reads ∧ reads.flatten = rows ∧
      Collects source cur rows := by
  have stands : Stands settings none rows [] cur := run.stands consistent.serves somePage
  have left : cur.left rows = rows := stands.whole
  have whole : Collects source cur rows := by
    have collects := collects_left consistent cur
    rwa [left] at collects
  have opened : cur.closed ≠ true := fun closed => List.not_mem_nil (stands.ended.mpr closed)
  have divides := run.divides consistent somePage s
  rw [← stands.configured] at somePage ⊢
  generalize ((cur.split source).run s).1 = answer at divides ⊢
  cases divides with
  | closed closed => exact absurd closed opened
  | few _ few =>
    have counted := collects_left consistent { cur with size := some rows.length }
    rw [show Cursor.left rows { cur with size := some rows.length } = rows from left] at counted
    exact ⟨_, [rows], rfl, iff_of_true rfl few,
      fun enough => absurd enough (Nat.not_le_of_lt few), .cons counted .nil,
      List.flatten_singleton, whole⟩
  | @parts rs _ enough consecutive length =>
    obtain ⟨reads, collects, all⟩ := collects_between consistent somePage consecutive
    have others : rs.map (fun r => between cur.settings r.1 r.2) ≠
        [{ cur with size := some rows.length }] := by
      intro same
      have ranges : rs.map some = [none] := calc
        rs.map some = (rs.map fun r => between cur.settings r.1 r.2).map range := by
          rw [List.map_map]
          rfl
        _ = [cur.range] := congrArg (List.map range) same
        _ = [none] := by rw [stands.bounded]
      obtain ⟨r, -, impossible⟩ := List.map_eq_singleton_iff.mp ranges
      cases impossible
    exact ⟨_, reads, rfl, iff_of_false others (Nat.not_lt_of_le enough),
      fun _ => ⟨Nat.le_trans (Nat.le_of_eq (List.length_map _)) length,
        partition_between _ consecutive⟩, collects, all, whole⟩
  | overflow _ _ large =>
    have : 4 ≤ UInt64.size := by decide
    omega

/-- The threshold for four parts is below the one for a split. The fourth part would be empty. -/
theorem Run.split_partitions_three :
    let rows := [10, 11, 12, 13, 14]
    let source := Source.ofRows rows
    let settings : CursorSettings := ⟨1, 3, 0⟩
    let parts := [between settings 0 2, between settings 2 4, between settings 4 5]
    source.Consistent rows ∧ settings.pageSize ≠ 0 ∧ rows.length ≤ UInt64.size - 4 ∧
      Run source (new settings) [] (new settings) ∧
      (((new settings).split source).run ()).1 = .ok parts ∧ Partition source rows parts ∧
      ∃ reads, List.Forall₂ (Collects source) parts reads ∧ reads.flatten = rows := by
  intro rows source settings parts
  have consistent : source.Consistent rows := Source.consistent_ofRows rows
  have page : settings.pageSize ≠ 0 := by decide
  have fit : rows.length ≤ UInt64.size - 4 := by decide
  have run : Run source (new settings) [] (new settings) := .nil
  have divided : (((new settings).split source).run ()).1 = .ok parts := by
    dsimp only [rows, source, parts, settings]
    rfl
  obtain ⟨parts', reads, answered, -, large, collects, all, -⟩ :=
    run.split_partitions consistent page fit ()
  cases divided.symm.trans answered
  exact ⟨consistent, page, fit, run, divided, (large (by decide)).2, reads, collects, all⟩

/-! ## 4. Splitting a cursor that was read -/

/-- A cursor is split that gave some rows already. If it is closed, or there are fewer rows than the
threshold for a split, its only part is the cursor itself, and goes on with the row that follows.
Otherwise the parts give all rows, and those that were given come again. -/
theorem Run.split_repeats_iff (consistent : source.Consistent rows)
    (somePage : settings.pageSize ≠ 0) (run : Run source (new settings) answers cur)
    (read : given answers ≠ []) (s : σ) :
    let alone := cur.closed = true ∨ rows.length < settings.parallelThreshold.toNat
    (∃ parts reads, ((cur.split source).run s).1 = .ok parts ∧
      List.Forall₂ (Collects source) parts reads ∧
      reads.flatten = (if alone then rows.drop (given answers).length else rows) ∧
      (given answers ++ reads.flatten = rows ↔ alone)) ∨
    ((cur.split source).run s).1 = .error .overflow ∧ UInt64.size ≤ rows.length + 3 := by
  intro alone
  have stands : Stands settings none rows answers cur := run.stands consistent.serves somePage
  have whole : given answers ++ cur.left rows = rows := stands.whole
  have rest : rows.drop (given answers).length = cur.left rows := by
    conv_lhs => rw [← whole]
    exact List.drop_left
  have goesOn {part : Cursor α} (same : part.left rows = cur.left rows) (holds : alone) :
      let reads := [cur.left rows]
      List.Forall₂ (Collects source) [part] reads ∧
        reads.flatten = (if alone then rows.drop (given answers).length else rows) ∧
        (given answers ++ reads.flatten = rows ↔ alone) := by
    intro reads
    have collects := collects_left consistent part
    rw [same] at collects
    have flat : reads.flatten = cur.left rows := List.flatten_singleton
    rw [flat, if_pos holds, rest]
    exact ⟨.cons collects .nil, rfl, iff_of_true whole holds⟩
  have divides := run.divides consistent somePage s
  rw [← stands.configured] at somePage
  generalize ((cur.split source).run s).1 = answer at divides ⊢
  cases divides with
  | closed closed => exact .inl ⟨_, _, rfl, goesOn rfl (.inl closed)⟩
  | few _ few =>
    rw [stands.configured] at few
    exact .inl ⟨_, _, rfl, goesOn rfl (.inr few)⟩
  | parts opened enough consecutive _ =>
    obtain ⟨reads, collects, all⟩ := collects_between consistent somePage consecutive
    have divided : ¬ alone := by
      rw [stands.configured] at enough
      simp [alone, opened, enough]
    refine .inl ⟨_, reads, rfl, collects, ?_, iff_of_false ?_ divided⟩
    · rw [if_neg divided, all]
    · rw [all]
      exact fun same => read (List.append_left_eq_self.mp same)
  | overflow _ _ large => exact .inr ⟨rfl, large⟩

/-- One of three rows was given, and the second one waits in the cursor. -/
theorem Run.split_repeats_iff_two :
    let rows := [10, 11, 12]
    let source := Source.ofRows rows
    let settings : CursorSettings := ⟨2, 2, 10⟩
    let cur : Cursor Nat := ⟨settings, none, none, 2, [11], false, false⟩
    let parts := [between settings 0 2, between settings 2 3]
    source.Consistent rows ∧ settings.pageSize ≠ 0 ∧
      Run source (new settings) [.ok (some 10)] cur ∧ given [.ok (some 10)] ≠ [] ∧
      ((cur.split source).run ()).1 = .ok parts ∧
      ∃ reads, List.Forall₂ (Collects source) parts reads ∧ reads.flatten = rows ∧
        [10] ++ reads.flatten ≠ rows := by
  intro rows source settings cur parts
  have consistent : source.Consistent rows := Source.consistent_ofRows rows
  have page : settings.pageSize ≠ 0 := by decide
  have run : Run source (new settings) [.ok (some 10)] cur := Run.nil.call (s := ()) rfl
  have taken : given [Except.ok (some 10)] ≠ [] := by decide
  have divided : ((cur.split source).run ()).1 = .ok parts := by
    dsimp only [rows, source, cur, parts, settings]
    rfl
  refine ⟨consistent, page, run, taken, divided, ?_⟩
  rcases run.split_repeats_iff consistent page taken () with
    ⟨parts', reads, answered, collects, all, -⟩ | ⟨overflow, -⟩
  · cases divided.symm.trans answered
    have again : reads.flatten = rows := all
    exact ⟨reads, collects, again, by rw [again]; decide⟩
  · rw [divided] at overflow
    cases overflow

end Cursor

end TaskQueue
