import TaskQueue.Proofs.Store.Sections

/-!
# Cursors over contents that do not change

A source shows some rows when it answers with pages of them (`Source.Shows`).

Results:
1. `next_exec`: a cursor gives the next of its remaining rows, whatever the size of its pages.
2. `collect_exec`: reading a cursor to its end gives all remaining rows.
3. `collectParts_exec`: the parts of a cursor that was split give rows of the source only.
-/

namespace TaskQueue

variable {α : Type}

/-- A source that answers with pages of some rows as long as the contents stay as they are. -/
structure Source.Shows (source : Source Program α) (c : Contents) (rows : List α) : Prop where
  count : source.count.exec c = (.ok rows.length, c)
  fetch : ∀ offset limit,
    (source.fetch offset limit).exec c = (.ok ((rows.drop offset).take limit), c)

theorem Listing.source_shows (listing : Listing) (c : Contents) :
    listing.source.Shows c (c.list listing) :=
  ⟨rfl, fun _ _ => rfl⟩

theorem Listing.idSource_shows (listing : Listing) (c : Contents) :
    listing.idSource.Shows c ((c.list listing).map Task.id) := by
  refine ⟨?_, fun offset limit => ?_⟩
  · rw [List.length_map]
    rfl
  · rw [← List.map_drop, ← List.map_take]
    rfl

/-- A source that is only read. -/
structure Source.Reads (source : Source Program α) : Prop where
  count : source.count.Reads
  fetch : ∀ offset limit, (source.fetch offset limit).Reads

theorem Listing.source_reads (listing : Listing) : listing.source.Reads :=
  ⟨⟨rfl, fun _ => trivial⟩, fun _ _ => ⟨rfl, fun _ => trivial⟩⟩

theorem Listing.idSource_reads (listing : Listing) : listing.idSource.Reads :=
  ⟨⟨rfl, fun _ => trivial⟩, fun _ _ => ⟨rfl, fun _ => trivial⟩⟩

namespace Cursor

variable {source : Source Program α} {c : Contents} {rows : List α} {cur : Cursor α}

/-! ## 1. One row -/

/-- Whether a cursor fetches no more pages. -/
def fetchesNoMore (cur : Cursor α) : Bool :=
  cur.exhausted || cur.closed || cur.settings.pageSize = 0

/-- The rows that a cursor over all rows has still to give. -/
def remaining (rows : List α) (cur : Cursor α) : List α :=
  cur.buffer ++ if cur.fetchesNoMore then [] else rows.drop cur.position

theorem remaining_new {settings : CursorSettings} (somePage : settings.pageSize ≠ 0) :
    (new settings).remaining rows = rows := by
  simp [remaining, new, fetchesNoMore, somePage]

/-- A new cursor has all rows before it, or none if its pages are empty. -/
theorem remaining_new_prefix (rows : List α) (settings : CursorSettings) :
    (new settings).remaining rows <+: rows := by
  by_cases somePage : settings.pageSize = 0
  · have none : (new settings).remaining rows = [] := by
      simp [remaining, new, fetchesNoMore, somePage]
    rw [none]
    exact List.nil_prefix
  · exact ⟨[], by rw [List.append_nil, remaining_new somePage]⟩

theorem limit_whole (whole : cur.range = none) : cur.limit = cur.settings.pageSize.toNat := by
  simp [limit, whole]

/-- A page that was received is the beginning of the remaining rows. -/
theorem remaining_receive (rows : List α) (whole : cur.range = none) (empty : cur.buffer = [])
    (fetches : cur.fetchesNoMore = false) :
    (cur.receive ((rows.drop cur.position).take cur.limit)).remaining rows =
      cur.remaining rows := by
  have flags := fetches
  simp only [fetchesNoMore, Bool.or_eq_false_iff] at flags
  obtain ⟨⟨exhausted, closed⟩, somePage⟩ := flags
  have page : (cur.receive ((rows.drop cur.position).take cur.limit)).fetchesNoMore =
      decide (((rows.drop cur.position).take cur.limit).length < cur.limit) := by
    simp only [fetchesNoMore, receive, atEnd, whole, exhausted, closed, somePage, Bool.or_false,
      Bool.false_or]
  rw [remaining, remaining, page, empty, fetches, limit_whole whole, List.length_take]
  simp only [receive, decide_eq_true_eq, List.nil_append, Bool.false_eq_true, if_false]
  split
  · next short => rw [List.append_nil, List.take_of_length_le (by omega)]
  · next full =>
    rw [List.length_take, Nat.min_eq_left (by omega), ← List.drop_drop]
    exact List.take_append_drop _ _

/-- Giving a row out of a page leaves the rows behind it. -/
theorem pop_eq (rows : List α) (cur : Cursor α) (whole : cur.range = none)
    (ended : cur.buffer = [] → cur.remaining rows = []) :
    cur.pop.1 = (cur.remaining rows).head? ∧ cur.pop.2.range = none ∧
      cur.pop.2.remaining rows = (cur.remaining rows).tail := by
  unfold pop
  cases buffer : cur.buffer with
  | nil =>
    rw [ended buffer]
    exact ⟨rfl, whole, by simp [remaining, close, fetchesNoMore]⟩
  | cons row others =>
    rw [remaining, buffer]
    exact ⟨rfl, whole, rfl⟩

/-- A cursor without a page that fetches no more is at its end. -/
theorem demand_end (rows : List α) (whole : cur.range = none) (empty : cur.buffer = [])
    (spent : cur.fetchesNoMore = true) :
    ∃ rest, cur.demand = .answer none rest ∧ rest.range = none ∧ rest.remaining rows = [] := by
  have closes : cur.close.remaining rows = [] := by simp [remaining, close, fetchesNoMore]
  have flags := spent
  simp only [fetchesNoMore, Bool.or_eq_true, decide_eq_true_eq] at flags
  simp only [demand, empty, limit_whole whole]
  split
  · exact ⟨cur.close, rfl, whole, closes⟩
  · next going =>
    split
    · exact ⟨cur, rfl, whole, by simp [remaining, empty, spent]⟩
    · next unclosed =>
      have noPage : cur.settings.pageSize = 0 := by
        rcases flags with (exhausted | closed) | noPage
        · exact absurd exhausted going
        · exact absurd closed unclosed
        · exact noPage
      rw [noPage]
      exact ⟨cur.close, rfl, whole, closes⟩

/-- Any other cursor without a page asks for one. -/
theorem demand_page (whole : cur.range = none) (empty : cur.buffer = [])
    (fetches : cur.fetchesNoMore = false) :
    cur.demand = .page cur.position cur.limit ∧ cur.limit ≠ 0 := by
  simp only [fetchesNoMore, Bool.or_eq_false_iff, decide_eq_false_iff_not] at fetches
  obtain ⟨⟨exhausted, closed⟩, somePage⟩ := fetches
  have limit : cur.limit ≠ 0 := by
    rw [limit_whole whole]
    exact fun zero => somePage (UInt64.toNat_inj.mp zero)
  refine ⟨?_, limit⟩
  simp only [demand, empty, exhausted, closed, limit, Bool.false_eq_true, if_false]

/-- A cursor gives the first of its remaining rows and keeps the others. -/
theorem next_exec (shows : source.Shows c rows) (whole : cur.range = none) :
    ∃ rest, (cur.next source).exec c = ((.ok (cur.remaining rows).head?, rest), c) ∧
      rest.range = none ∧ rest.remaining rows = (cur.remaining rows).tail := by
  cases buffer : cur.buffer with
  | cons row others =>
    have demand : cur.demand = .answer (some row) { cur with buffer := others } := by
      simp [demand, buffer]
    have remaining : cur.remaining rows =
        row :: { cur with buffer := others }.remaining rows := by
      simp [remaining, buffer, fetchesNoMore]
    rw [next, demand, remaining]
    exact ⟨_, rfl, whole, rfl⟩
  | nil =>
    cases spent : cur.fetchesNoMore with
    | true =>
      have remaining : cur.remaining rows = [] := by simp [remaining, buffer, spent]
      obtain ⟨rest, demand, range, nothing⟩ := demand_end rows whole buffer spent
      rw [next, demand, remaining]
      exact ⟨rest, rfl, range, nothing⟩
    | false =>
      -- A page that is empty although it asks for rows means that none are left.
      obtain ⟨demand, limit⟩ := demand_page whole buffer spent
      have page := remaining_receive rows whole buffer spent
      have popped := pop_eq rows
        (cur.receive ((rows.drop cur.position).take cur.limit)) whole fun empty => by
          have none : rows.drop cur.position = [] :=
            (List.take_eq_nil_iff.mp empty).resolve_left limit
          rw [page, remaining, buffer, none, ite_self]
          rfl
      rw [page] at popped
      rw [next, demand]
      simp only [Program.exec_bind, shows.fetch, Program.exec_pure]
      exact ⟨_, by rw [popped.1], popped.2⟩

/-! ## 2. All rows -/

/-- Reading on gives all remaining rows, or the first `bound` of them. -/
theorem collect_exec (shows : source.Shows c rows) (bound : Nat) (whole : cur.range = none) :
    (cur.collect source bound).exec c = (.ok ((cur.remaining rows).take bound), c) := by
  induction bound generalizing cur with
  | zero => rfl
  | succ bound ih =>
    obtain ⟨rest, first, range, others⟩ := next_exec shows whole
    rw [collect, Program.exec_bind, first]
    cases remaining : cur.remaining rows with
    | nil => rfl
    | cons row tail =>
      rw [remaining, List.tail_cons] at others
      simp only [List.head?_cons, Program.exec_bind, ih range, Program.exec_pure, others,
        List.take_succ_cons]
      rfl

theorem next_reads (reads : source.Reads) (cur : Cursor α) : (cur.next source).Reads := by
  unfold next
  split
  · trivial
  · refine (reads.fetch _ _).bind fun answer => ?_
    cases answer <;> trivial

theorem collect_reads (reads : source.Reads) (bound : Nat) (cur : Cursor α) :
    (cur.collect source bound).Reads := by
  induction bound generalizing cur with
  | zero => trivial
  | succ bound ih =>
    refine (next_reads reads cur).bind fun (result, rest) => ?_
    rcases result with failure | row
    · trivial
    · cases row with
      | none => trivial
      | some row => exact (ih rest).bind fun _ => trivial

theorem measure_reads (reads : source.Reads) (cur : Cursor α) : (cur.measure source).Reads := by
  unfold measure
  split
  · trivial
  split
  · trivial
  · refine reads.count.bind fun answer => ?_
    cases answer <;> trivial

/-- A new cursor counts all rows, and has them still before it. -/
theorem measure_new (shows : source.Shows c rows) (settings : CursorSettings) :
    ((new settings).measure source).exec c =
      ((.ok rows.length, { new settings with size := some rows.length }), c) := by
  refine (Program.exec_bind source.count _ c).trans ?_
  rw [shows.count]
  rfl

/-! ## 3. Parts -/

theorem measure_exec (cur : Cursor α) (shows : source.Shows c rows) :
    ∃ size measured, (cur.measure source).exec c = ((.ok size, measured), c) ∧
      measured.buffer = cur.buffer := by
  unfold measure
  split
  · exact ⟨_, cur, rfl, rfl⟩
  split
  · exact ⟨0, { cur with size := some 0 }, rfl, rfl⟩
  · refine ⟨rows.length, { cur with size := some rows.length }, ?_, rfl⟩
    rw [Program.exec_bind, shows.count]
    rfl

theorem splits_exec (cur : Cursor α) (shows : source.Shows c rows) :
    ∃ wanted measured, (cur.splits source).exec c = ((.ok wanted, measured), c) ∧
      measured.buffer = cur.buffer := by
  unfold splits
  split
  · exact ⟨false, cur, rfl, rfl⟩
  · obtain ⟨size, measured, counted, buffer⟩ := measure_exec cur shows
    refine ⟨measured.settings.parallelThreshold.toNat ≤ size, measured, ?_, buffer⟩
    rw [Program.exec_bind, counted]
    rfl

/-- Splitting a cursor that holds no page makes parts that hold none, and changes nothing. -/
theorem split_exec (shows : source.Shows c rows) (empty : cur.buffer = []) :
    ∃ result, (cur.split source).exec c = (result, c) ∧
      ∀ parts, result = .ok parts → ∀ part ∈ parts, part.buffer = [] := by
  obtain ⟨wanted, measured, asked, buffer⟩ := splits_exec cur shows
  rw [split, Program.exec_bind, asked]
  cases wanted with
  | false =>
    refine ⟨.ok [measured], rfl, ?_⟩
    rintro parts same part member
    obtain rfl := Except.ok.inj same
    obtain rfl := List.mem_singleton.mp member
    rw [buffer, empty]
  | true =>
    obtain ⟨size, last, counted, -⟩ := measure_exec measured shows
    simp only [Program.exec_bind, counted, Program.exec_pure]
    refine ⟨_, rfl, ?_⟩
    intro parts same part member
    cases divided : ranges last.settings size with
    | error failure =>
      rw [divided] at same
      cases same
    | ok rs =>
      rw [divided] at same
      obtain rfl := Except.ok.inj same
      obtain ⟨r, -, rfl⟩ := List.mem_map.mp member
      rfl

/-- All rows read so far are rows of the source. -/
def Sound (rows : List α) (parts : Progress α) : Prop :=
  ∀ part ∈ parts, ∀ row ∈ part.2.1, row ∈ rows

theorem sound_cons {part : Cursor α × List α × Bool} {parts : Progress α} :
    Sound rows (part :: parts) ↔ (∀ row ∈ part.2.1, row ∈ rows) ∧ Sound rows parts :=
  List.forall_mem_cons

theorem round_exec (shows : source.Shows c rows) {parts : Progress α} (sound : Sound rows parts) :
    ∃ next, (round source parts).exec c = (.ok next, c) ∧ Sound rows next := by
  induction parts with
  | nil => exact ⟨[], rfl, sound⟩
  | cons part rest ih =>
    obtain ⟨own, others⟩ := sound_cons.mp sound
    obtain ⟨next, went, kept⟩ := ih others
    match part with
    | (cur, read, true) =>
      refine ⟨(cur, read, true) :: next, ?_, sound_cons.mpr ⟨own, kept⟩⟩
      rw [round, Program.exec_bind, went]
      rfl
    | (cur, read, false) =>
      rw [round]
      cases cur.demand with
      | answer _ _ =>
        refine ⟨(cur, read, true) :: next, ?_, sound_cons.mpr ⟨own, kept⟩⟩
        rw [Program.exec_bind, went]
        rfl
      | page offset limit =>
        simp only [Program.exec_bind, shows.fetch, went, Program.exec_pure]
        refine ⟨_, rfl, sound_cons.mpr ⟨?_, kept⟩⟩
        intro row member
        rcases List.mem_append.mp member with before | page
        · exact own row before
        · exact List.mem_of_mem_drop (List.mem_of_mem_take page)

theorem rounds_exec (shows : source.Shows c rows) (bound : Nat) {parts : Progress α}
    (sound : Sound rows parts) :
    ∃ last, (rounds source bound parts).exec c = (.ok last, c) ∧ Sound rows last := by
  induction bound generalizing parts with
  | zero => exact ⟨parts, rfl, sound⟩
  | succ bound ih =>
    rw [rounds]
    split
    · exact ⟨parts, rfl, sound⟩
    · obtain ⟨next, went, kept⟩ := round_exec shows sound
      obtain ⟨last, rest, final⟩ := ih kept
      refine ⟨last, ?_, final⟩
      rw [Program.exec_bind, went]
      exact rest

/-- Cursors that take turns and hold no pages at first give rows of the source only. -/
theorem collectParts_exec (shows : source.Shows c rows) (bound : Nat) {parts : List (Cursor α)}
    (empty : ∀ part ∈ parts, part.buffer = []) :
    ∃ read, (collectParts source bound parts).exec c = (.ok read, c) ∧
      ∀ row ∈ read, row ∈ rows := by
  have start :
      Sound rows (parts.map fun cur => ({ cur with buffer := [] }, cur.buffer, false)) := by
    intro part member row stands
    obtain ⟨cur, known, rfl⟩ := List.mem_map.mp member
    rw [empty cur known] at stands
    cases stands
  obtain ⟨last, went, sound⟩ := rounds_exec shows bound start
  refine ⟨last.flatMap fun part => part.2.1, ?_, ?_⟩
  · rw [collectParts, Program.exec_bind, went]
    rfl
  · intro row member
    obtain ⟨part, known, stands⟩ := List.mem_flatMap.mp member
    exact sound part known row stands

end Cursor

end TaskQueue
