import Mathlib.Algebra.Ring.Nat
import Mathlib.Data.List.Forall2
import TaskQueue.Proofs.Cursor

/-!
# The parts of a cursor that was split

The parts read side by side, a page each in every round, until all of them are done. Whatever the
size of the pages and the number of parts, they give the rows that the whole cursor gives.

Results:
1. `owed_receive`: the page that a part receives is the beginning of what it has still to read.
2. `collectParts_complete`: parts that go on for long enough read all that they owe.
3. `ranges_consecutive`: the ranges of the parts follow on each other, from the first row to the
   last.
4. `split_complete`: a new cursor that is split gives all rows, unless there are so many that their
   offsets do not fit 64 bits.
-/

namespace TaskQueue.Cursor

variable {α : Type} {source : Source Program α} {c : Contents} {rows : List α} {cur : Cursor α}

/-! ## 1. One page -/

/-- The rows up to the end of a cursor's range. -/
def within (rows : List α) (cur : Cursor α) : List α :=
  match cur.range with
  | some (_, last) => rows.take last
  | none => rows

/-- The rows that a cursor without a page has still to read. -/
def owed (rows : List α) (cur : Cursor α) : List α :=
  if cur.fetchesNoMore then [] else (cur.within rows).drop cur.position

/-- What a cursor asks for is a page of the rows up to the end of its range. -/
theorem page_eq (rows : List α) (cur : Cursor α) :
    (rows.drop cur.position).take cur.limit =
      ((cur.within rows).drop cur.position).take cur.settings.pageSize.toNat := by
  cases range : cur.range with
  | none => simp only [limit, within, range]
  | some ends => simp only [limit, within, range, List.drop_take, List.take_take]

/-- A cursor without a page owes nothing, or asks for one. -/
theorem demand_cases (empty : cur.buffer = []) :
    (∃ row rest, cur.demand = .answer row rest ∧ ∀ rows, cur.owed rows = []) ∨
      cur.demand = .page cur.position cur.limit ∧ cur.fetchesNoMore = false := by
  have spent (noMore : cur.fetchesNoMore = true) (rows : List α) : cur.owed rows = [] := by
    rw [owed, noMore, if_pos rfl]
  unfold demand
  rw [empty]
  simp only
  split
  · next exhausted => exact .inl ⟨none, cur.close, rfl, spent (by simp [fetchesNoMore, exhausted])⟩
  split
  · next closed => exact .inl ⟨none, cur, rfl, spent (by simp [fetchesNoMore, closed])⟩
  split
  · next nothing =>
    -- The pages are empty, or the end of the range is reached.
    refine .inl ⟨none, cur.close, rfl, fun rows => ?_⟩
    unfold owed
    split
    · rfl
    · next more =>
      have somePage : cur.settings.pageSize.toNat ≠ 0 := by
        intro zero
        refine more ?_
        have noPage : cur.settings.pageSize = 0 := UInt64.toNat_inj.mp zero
        simp [fetchesNoMore, noPage]
      have page := page_eq rows cur
      rw [nothing, List.take_zero] at page
      exact (List.take_eq_nil_iff.mp page.symm).resolve_left somePage
  · next exhausted closed more =>
    refine .inr ⟨rfl, ?_⟩
    have somePage : cur.settings.pageSize ≠ 0 := by
      intro noPage
      refine more ?_
      unfold limit
      split <;> simp [noPage]
    simp [fetchesNoMore, somePage, exhausted, closed]

/-- After its last page a cursor has reached the end of its rows. -/
theorem last_page (rows : List α) (going : cur.exhausted = false)
    (ended : (cur.receive ((rows.drop cur.position).take cur.limit)).exhausted = true) :
    ((cur.within rows).drop cur.position).length ≤ cur.settings.pageSize.toNat := by
  simp only [receive, going, Bool.false_or, Bool.or_eq_true, decide_eq_true_eq,
    List.length_take, List.length_drop] at ended
  cases range : cur.range with
  | none =>
    simp only [atEnd, limit, range, Bool.false_eq_true, or_false] at ended
    simp only [within, range, List.length_drop]
    omega
  | some ends =>
    simp only [atEnd, limit, range, decide_eq_true_eq] at ended
    simp only [within, range, List.length_drop, List.length_take]
    omega

/-- Any other page is as long as pages are. -/
theorem full_page (rows : List α)
    (more : (cur.receive ((rows.drop cur.position).take cur.limit)).exhausted = false) :
    ((rows.drop cur.position).take cur.limit).length = cur.settings.pageSize.toNat := by
  simp only [receive, Bool.or_eq_false_iff, decide_eq_false_iff_not, List.length_take,
    List.length_drop] at more
  rw [List.length_take, List.length_drop]
  cases range : cur.range with
  | none =>
    simp only [limit, range] at more ⊢
    omega
  | some ends =>
    simp only [atEnd, limit, range, decide_eq_false_iff_not] at more ⊢
    omega

/-- A page that was received is the beginning of what was owed. It is not empty, unless it is the
last one. -/
theorem owed_receive (rows : List α) (fetches : cur.fetchesNoMore = false) :
    let page := (rows.drop cur.position).take cur.limit
    page ++ (cur.receive page).owed rows = cur.owed rows ∧
      ((cur.receive page).exhausted = false → page ≠ []) := by
  intro page
  have flags := fetches
  simp only [fetchesNoMore, Bool.or_eq_false_iff, decide_eq_false_iff_not] at flags
  obtain ⟨⟨going, closed⟩, somePage⟩ := flags
  have size : cur.settings.pageSize.toNat ≠ 0 := fun zero => somePage (UInt64.toNat_inj.mp zero)
  have part : page = ((cur.within rows).drop cur.position).take cur.settings.pageSize.toNat :=
    page_eq rows cur
  have before : cur.owed rows = (cur.within rows).drop cur.position := by
    rw [owed, fetches, if_neg Bool.false_ne_true]
  have spent : (cur.receive page).fetchesNoMore = (cur.receive page).exhausted := by
    have closed' : (cur.receive page).closed = false := closed
    have somePage' : (cur.receive page).settings.pageSize ≠ 0 := somePage
    simp [fetchesNoMore, closed', somePage']
  cases ended : (cur.receive page).exhausted with
  | true =>
    have short := last_page rows going ended
    refine ⟨?_, by rintro ⟨⟩⟩
    rw [owed, spent, ended, if_pos rfl, List.append_nil, before, part]
    exact List.take_of_length_le short
  | false =>
    have full : page.length = cur.settings.pageSize.toNat := full_page rows ended
    have after : (cur.receive page).owed rows =
        ((cur.within rows).drop cur.position).drop page.length := by
      rw [owed, spent, ended, if_neg Bool.false_ne_true, List.drop_drop]
      rfl
    refine ⟨?_, fun _ empty => ?_⟩
    · rw [after, before, full, part]
      exact List.take_append_drop _ _
    · rw [empty] at full
      exact size full.symm

/-! ## 2. Taking turns -/

/-- What a part has read in the end, when it goes on reading to its end. -/
def total (rows : List α) (part : Cursor α × List α × Bool) : List α :=
  part.2.1 ++ if part.2.2 then [] else part.1.owed rows

/-- How many more rounds a part takes at most. -/
def effort (rows : List α) (part : Cursor α × List α × Bool) : Nat :=
  if part.2.2 then 0 else (part.1.owed rows).length + 1

/-- A part after a round. -/
structure Proceeds (rows : List α) (part next : Cursor α × List α × Bool) : Prop where
  empty : next.1.buffer = []
  total : total rows next = total rows part
  effort : effort rows next ≤ effort rows part - 1

theorem proceeds_done {read : List α} (empty : cur.buffer = []) :
    Proceeds rows (cur, read, true) (cur, read, true) :=
  ⟨empty, rfl, Nat.zero_le _⟩

/-- A part that owes nothing is done. -/
theorem proceeds_end {read : List α} (empty : cur.buffer = []) (nothing : cur.owed rows = []) :
    Proceeds rows (cur, read, false) (cur, read, true) := by
  refine ⟨empty, ?_, Nat.zero_le _⟩
  simp only [Cursor.total, nothing, if_true, Bool.false_eq_true, if_false]

/-- A part that reads a page owes less, or is done. -/
theorem proceeds_page {read : List α} (fetches : cur.fetchesNoMore = false) :
    let page := (rows.drop cur.position).take cur.limit
    let got := cur.receive page
    Proceeds rows (cur, read, false) ({ got with buffer := [] }, read ++ page, got.exhausted) := by
  intro page got
  obtain ⟨whole, nonempty⟩ := owed_receive rows fetches
  change page ++ got.owed rows = cur.owed rows at whole
  have left : (if got.exhausted then [] else got.owed rows) = got.owed rows := by
    split
    · next ended => simp [owed, fetchesNoMore, ended]
    · rfl
  have same : { got with buffer := [] }.owed rows = got.owed rows := rfl
  refine ⟨rfl, ?_, ?_⟩
  · simp only [Cursor.total, same, left, Bool.false_eq_true, if_false]
    rw [List.append_assoc, whole]
  · simp only [Cursor.effort, same, Bool.false_eq_true, if_false]
    cases ended : got.exhausted with
    | true => exact Nat.zero_le _
    | false =>
      have some : page.length ≠ 0 := fun zero => nonempty ended (List.length_eq_zero_iff.mp zero)
      rw [← whole, List.length_append]
      simp only [Bool.false_eq_true, if_false]
      omega

/-- In a round each part proceeds. -/
theorem round_proceeds (shows : source.Shows c rows) {parts : Progress α}
    (empty : ∀ part ∈ parts, part.1.buffer = []) :
    ∃ next, (round source parts).exec c = (.ok next, c) ∧
      List.Forall₂ (Proceeds rows) parts next := by
  induction parts with
  | nil => exact ⟨[], rfl, .nil⟩
  | cons part rest ih =>
    obtain ⟨own, others⟩ := List.forall_mem_cons.mp empty
    obtain ⟨next, went, proceeds⟩ := ih others
    obtain ⟨cur, read, done⟩ := part
    cases done with
    | true =>
      refine ⟨(cur, read, true) :: next, ?_, .cons (proceeds_done own) proceeds⟩
      rw [round, Program.exec_bind, went]
      rfl
    | false =>
      rw [round]
      rcases demand_cases own with ⟨row, after, demand, nothing⟩ | ⟨demand, fetches⟩
      · refine ⟨(cur, read, true) :: next, ?_, .cons (proceeds_end own (nothing rows)) proceeds⟩
        rw [demand]
        simp only [Program.exec_bind, went, Program.exec_pure]
        rfl
      · refine ⟨_, ?_, .cons (proceeds_page fetches) proceeds⟩
        rw [demand]
        simp only [Program.exec_bind, shows.fetch, went, Program.exec_pure]
        rfl

/-- After a round all parts will have read the same in the end, and have a round less to go. -/
theorem proceeds_all {parts next : Progress α}
    (proceeds : List.Forall₂ (Proceeds rows) parts next) :
    (∀ part ∈ next, part.1.buffer = []) ∧ next.map (total rows) = parts.map (total rows) ∧
      ∀ n, (∀ part ∈ parts, effort rows part ≤ n + 1) → ∀ part ∈ next, effort rows part ≤ n := by
  induction proceeds with
  | nil => exact ⟨nofun, rfl, fun _ _ => nofun⟩
  | cons one _ ih =>
    obtain ⟨empty, same, less⟩ := ih
    refine ⟨List.forall_mem_cons.mpr ⟨one.empty, empty⟩, ?_, fun n enough => ?_⟩
    · rw [List.map_cons, List.map_cons, one.total, same]
    · obtain ⟨first, rest⟩ := List.forall_mem_cons.mp enough
      refine List.forall_mem_cons.mpr ⟨?_, less n rest⟩
      exact Nat.le_trans one.effort (Nat.sub_le_of_le_add first)

/-- Parts for which there are rounds enough read all that they owe. -/
theorem rounds_complete (shows : source.Shows c rows) (bound : Nat) {parts : Progress α}
    (empty : ∀ part ∈ parts, part.1.buffer = [])
    (enough : ∀ part ∈ parts, effort rows part ≤ bound) :
    ∃ last, (rounds source bound parts).exec c = (.ok last, c) ∧
      last.map (·.2.1) = parts.map (total rows) := by
  have ended {parts : Progress α} (done : ∀ part ∈ parts, part.2.2 = true) :
      parts.map (·.2.1) = parts.map (total rows) := by
    refine List.map_congr_left fun part member => ?_
    rw [total, done part member, if_pos rfl, List.append_nil]
  induction bound generalizing parts with
  | zero =>
    refine ⟨parts, rfl, ended fun part member => ?_⟩
    have none := enough part member
    unfold effort at none
    split at none
    · assumption
    · omega
  | succ bound ih =>
    rw [rounds]
    split
    · next all => exact ⟨parts, rfl, ended fun part member => List.all_eq_true.mp all part member⟩
    · obtain ⟨next, went, proceeds⟩ := round_proceeds shows empty
      obtain ⟨empty', same, less⟩ := proceeds_all proceeds
      obtain ⟨last, rest, read⟩ := ih empty' (less bound enough)
      refine ⟨last, ?_, read.trans same⟩
      rw [Program.exec_bind, went]
      exact rest

/-- Cursors that take turns and hold no pages at first read all that they owe. -/
theorem collectParts_complete (shows : source.Shows c rows) {bound : Nat}
    {parts : List (Cursor α)} (empty : ∀ part ∈ parts, part.buffer = [])
    (enough : ∀ part ∈ parts, (part.owed rows).length < bound) :
    (collectParts source bound parts).exec c = (.ok (parts.flatMap (owed rows)), c) := by
  have begin : parts.map (fun cur => ({ cur with buffer := [] }, cur.buffer, false)) =
      parts.map fun cur => (cur, [], false) := by
    refine List.map_congr_left fun cur member => ?_
    rw [empty cur member, ← empty cur member]
  have fresh : ∀ part ∈ parts.map fun cur => (cur, ([] : List α), false),
      part.1.buffer = [] ∧ effort rows part ≤ bound := by
    intro part member
    obtain ⟨cur, known, rfl⟩ := List.mem_map.mp member
    exact ⟨empty cur known, enough cur known⟩
  obtain ⟨last, went, read⟩ := rounds_complete shows bound
    (fun part member => (fresh part member).1)
    fun part member => (fresh part member).2
  rw [collectParts, begin, Program.exec_bind, went]
  have whole : last.flatMap (·.2.1) = parts.flatMap (owed rows) := by
    rw [List.flatMap_def, read, List.map_map, List.flatMap_def]
    rfl
  exact congrArg (fun read => (Except.ok read, c)) whole

/-! ## 3. Ranges -/

/-- Ranges that follow on each other from zero up to an offset. None of them is empty. -/
inductive Consecutive : List (Nat × Nat) → Nat → Prop
  | nil : Consecutive [] 0
  | snoc {rs : List (Nat × Nat)} {next last : Nat} : Consecutive rs next → next < last →
      Consecutive (rs ++ [(next, last)]) last

/-- Their rows are the rows up to that offset, each once and in order. -/
theorem Consecutive.cover {rs : List (Nat × Nat)} {last : Nat} (consecutive : Consecutive rs last)
    (rows : List α) : rs.flatMap (fun r => (rows.take r.2).drop r.1) = rows.take last := by
  induction consecutive with
  | nil => rfl
  | @snoc rs next last _ less ih =>
    have first : rows.take next = (rows.take last).take next := by
      rw [List.take_take, Nat.min_eq_left (Nat.le_of_lt less)]
    rw [List.flatMap_append, ih, List.flatMap_singleton, first]
    exact List.take_append_drop _ _

/-- Their sizes add up to that offset. -/
theorem Consecutive.sizes {rs : List (Nat × Nat)} {last : Nat} (consecutive : Consecutive rs last) :
    (∀ r ∈ rs, r.2 - r.1 ≠ 0) ∧ (rs.map fun r => r.2 - r.1).sum = last := by
  induction consecutive with
  | nil => exact ⟨nofun, rfl⟩
  | @snoc rs next last _ less ih =>
    refine ⟨List.forall_mem_append.mpr ⟨ih.1, ?_⟩, ?_⟩
    · exact List.forall_mem_singleton.mpr (Nat.sub_ne_zero_of_lt less)
    · rw [List.map_append, List.sum_append, ih.2]
      exact Nat.add_sub_cancel' (Nat.le_of_lt less)

/-- None of them is empty or reaches beyond it. -/
theorem Consecutive.inside {rs : List (Nat × Nat)} {last : Nat}
    (consecutive : Consecutive rs last) : ∀ r ∈ rs, r.1 < r.2 ∧ r.2 ≤ last := by
  induction consecutive with
  | nil => exact nofun
  | @snoc rs next last _ less ih =>
    refine List.forall_mem_append.mpr ⟨fun r member => ?_, ?_⟩
    · obtain ⟨some, before⟩ := ih r member
      exact ⟨some, Nat.le_trans before (Nat.le_of_lt less)⟩
    · exact List.forall_mem_singleton.mpr ⟨less, Nat.le_refl _⟩

/-- The multiples of a size, cut to a total, bound consecutive ranges. -/
theorem consecutive_multiples (size total n : Nat) :
    Consecutive (((List.range n).map fun i => (i * size, min ((i + 1) * size) total)).filter
      fun r => r.1 < r.2) (min (n * size) total) := by
  induction n with
  | zero =>
    rw [Nat.zero_mul, Nat.zero_min]
    exact .nil
  | succ n ih =>
    have next : (n + 1) * size = n * size + size := Nat.succ_mul n size
    rw [List.range_succ, List.map_append, List.filter_append]
    by_cases more : n * size < min ((n + 1) * size) total
    · rw [List.map_singleton, List.filter_singleton, decide_eq_true more]
      have here : min (n * size) total = n * size := by omega
      rw [here] at ih
      exact ih.snoc more
    · -- The total is reached already, or the size is zero.
      rw [List.map_singleton, List.filter_singleton, decide_eq_false more]
      have here : min ((n + 1) * size) total = min (n * size) total := by omega
      rw [here]
      exact (List.append_nil _).symm ▸ ih

/-- All parts together are as large as the whole, and not much larger. -/
theorem chunkSize_bounds (settings : CursorSettings) (total : Nat) :
    total ≤ chunks settings total * chunkSize settings total ∧
      chunks settings total * chunkSize settings total ≤ total + 3 := by
  unfold chunkSize chunks
  split
  · omega
  · omega

/-- The parts of a cursor have consecutive ranges, which end with the rows, if their offsets fit 64
bits. -/
theorem ranges_consecutive (settings : CursorSettings) (total : Nat) :
    (∃ rs, ranges settings total = .ok rs ∧ Consecutive rs total ∧
      rs.length ≤ chunks settings total) ∨
    ranges settings total = .error .overflow ∧ UInt64.size ≤ total + 3 := by
  obtain ⟨whole, near⟩ := chunkSize_bounds settings total
  simp only [ranges]
  split
  · next large => exact .inr ⟨rfl, Nat.le_trans large near⟩
  · have consecutive :=
      consecutive_multiples (chunkSize settings total) total (chunks settings total)
    rw [Nat.min_eq_right whole] at consecutive
    refine .inl ⟨_, rfl, consecutive, ?_⟩
    refine Nat.le_trans (List.length_filter_le _ _) (Nat.le_of_eq ?_)
    rw [List.length_map, List.length_range]

/-- So they cover all rows, each once and in order. -/
theorem ranges_cover (rows : List α) (settings : CursorSettings) :
    (∃ rs, ranges settings rows.length = .ok rs ∧
      rs.flatMap (fun r => (rows.take r.2).drop r.1) = rows) ∨
    ranges settings rows.length = .error .overflow ∧ UInt64.size ≤ rows.length + 3 := by
  rcases ranges_consecutive settings rows.length with ⟨rs, divided, consecutive, -⟩ | overflow
  · exact .inl ⟨rs, divided, (consecutive.cover rows).trans List.take_length⟩
  · exact .inr overflow

/-- A new cursor owes all rows, or none if its pages are empty. -/
theorem owed_new (rows : List α) (settings : CursorSettings) :
    (new settings).owed rows = if settings.pageSize = 0 then [] else rows := by
  by_cases page : settings.pageSize = 0
  · simp [owed, fetchesNoMore, new, page]
  · simp [owed, fetchesNoMore, new, within, page]

/-- So does a part of the rows of its range. -/
theorem owed_between (rows : List α) (settings : CursorSettings) (first last : Nat) :
    (between settings first last).owed rows =
      if settings.pageSize = 0 then [] else (rows.take last).drop first := by
  have behind : last ≤ first → (rows.take last).drop first = [] := by
    intro le
    refine List.drop_eq_nil_of_le ?_
    rw [List.length_take]
    exact Nat.le_trans (Nat.min_le_left _ _) le
  by_cases page : settings.pageSize = 0
  · simp [owed, fetchesNoMore, between, page]
  · by_cases le : last ≤ first
    · simp [owed, fetchesNoMore, between, page, le, behind]
    · simp [owed, fetchesNoMore, between, page, le, within]

/-- What the parts owe is what the whole cursor owes. -/
theorem flatMap_between {rs : List (Nat × Nat)} (settings : CursorSettings)
    (cover : rs.flatMap (fun r => (rows.take r.2).drop r.1) = rows) :
    (rs.map fun r => between settings r.1 r.2).flatMap (owed rows) =
      (new settings).owed rows := by
  rw [List.flatMap_map, owed_new]
  simp only [owed_between]
  split
  · simp
  · exact cover

/-! ## 4. Splitting -/

/-- A new cursor is asked for its parts, and the parts are read to their end. They give all that the
cursor itself would give, unless there are so many rows that the offsets of the parts do not fit 64
bits. -/
theorem split_complete (shows : source.Shows c rows) (settings : CursorSettings) {bound : Nat}
    (enough : rows.length < bound) :
    (∃ parts, ((new settings).split source).exec c = (.ok parts, c) ∧
      (collectParts source bound parts).exec c = (.ok ((new settings).owed rows), c)) ∨
    ((new settings).split source).exec c = (.error .overflow, c) ∧
      UInt64.size ≤ rows.length + 3 := by
  let whole : Cursor α := { new settings with size := some rows.length }
  have wanted : ((new settings).splits source).exec c =
      ((.ok (settings.parallelThreshold.toNat ≤ rows.length), whole), c) := by
    refine (Program.exec_bind ((new settings).measure source) _ c).trans ?_
    rw [measure_new shows settings]
    rfl
  have counted : (whole.measure source).exec c = ((.ok rows.length, whole), c) := rfl
  have short (cur : Cursor α) : (cur.owed rows).length < bound := by
    refine Nat.lt_of_le_of_lt ?_ enough
    unfold owed within
    split
    · exact Nat.zero_le _
    · rw [List.length_drop]
      split
      · rw [List.length_take]
        omega
      · omega
  rw [split, Program.exec_bind, wanted]
  cases large : decide (settings.parallelThreshold.toNat ≤ rows.length) with
  | false =>
    -- There are too few rows, so the cursor itself is the only part.
    refine .inl ⟨[whole], rfl, ?_⟩
    have read := @collectParts_complete _ _ _ _ shows bound [whole]
      (List.forall_mem_singleton.mpr rfl) (List.forall_mem_singleton.mpr (short whole))
    rw [List.flatMap_singleton] at read
    exact read
  | true =>
    simp only [Program.exec_bind, counted, Program.exec_pure]
    rcases ranges_cover rows settings with ⟨rs, divided, cover⟩ | ⟨overflow, large⟩
    · have parts : ranges whole.settings rows.length = .ok rs := divided
      have empty : ∀ part ∈ rs.map (fun r => between settings r.1 r.2),
          (part : Cursor α).buffer = [] := by
        intro part member
        obtain ⟨r, -, rfl⟩ := List.mem_map.mp member
        rfl
      have read := collectParts_complete shows empty fun part _ => short part
      rw [flatMap_between settings cover] at read
      exact .inl ⟨_, by rw [parts]; rfl, read⟩
    · have none : ranges whole.settings rows.length = .error .overflow := overflow
      exact .inr ⟨by rw [none]; rfl, large⟩

end TaskQueue.Cursor
