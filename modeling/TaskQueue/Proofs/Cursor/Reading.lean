import TaskQueue.Proofs.Cursor.Parts

/-!
# Reading a cursor whose source may fail

Any fetch may fail, and between two calls anything may happen to the source. What a cursor has given
and what it has left are the rows of its range, whatever failed so far.

Results:
1. `next_does`: what a call for the next row does. `next_gives`: what it can answer and leave.
2. `Run.stands`: after any calls, the rows that were given and the rows that are left.
3. `Run.gives_each_row`: the rows come in order, each once, and the end comes after all of them.
-/

namespace TaskQueue

variable {σ α : Type}

/-- A source of some rows. A fetch that does not fail answers with the rows from its offset on, all
of them or as many as its limit. -/
def Source.Serves (source : Source (StateM σ) α) (rows : List α) : Prop :=
  ∀ offset limit s page, ((source.fetch offset limit).run s).1 = .ok page →
    page = (rows.drop offset).take limit

/-- What follows a query goes on with its answer. -/
theorem answer_bind {β γ : Type} (query : StateM σ β) (f : β → StateM σ γ) (s : σ) :
    ((query >>= f).run s).1 = ((f (query.run s).1).run (query.run s).2).1 :=
  rfl

namespace Cursor

variable {source : Source (StateM σ) α} {rows : List α} {cur after : Cursor α}
  {settings : CursorSettings} {range : Option (Nat × Nat)}
  {answers : List (Except Failure (Option α))}

/-! ## 1. One call -/

/-- A cursor that needs a page for its next row. -/
structure Fetches (cur : Cursor α) : Prop where
  empty : cur.buffer = []
  going : cur.exhausted = false
  opened : cur.closed = false
  some : cur.limit ≠ 0

/-- What a call for the next row does: it takes a row from the page at hand, it finds the end, or it
asks for a page and looks there. A page without rows is the end. -/
inductive Does (source : Source (StateM σ) α) (cur : Cursor α) (s : σ) :
    Except Failure (Option α) → Cursor α → σ → Prop
  | row {row : α} {rest : List α} : cur.buffer = row :: rest →
      Does source cur s (.ok (some row)) { cur with buffer := rest } s
  | ended {exhausted : Bool} : cur.buffer = [] → ¬ cur.Fetches → (∀ rows, cur.owed rows = []) →
      Does source cur s (.ok none) { cur with exhausted, closed := true } s
  | failed {failure : Failure} {s' : σ} : cur.Fetches →
      (source.fetch cur.position cur.limit).run s = (.error failure, s') →
      Does source cur s (.error failure) cur s'
  | page {row : α} {rest : List α} {s' : σ} : cur.Fetches →
      (source.fetch cur.position cur.limit).run s = (.ok (row :: rest), s') →
      Does source cur s (.ok (some row)) { cur.receive (row :: rest) with buffer := rest } s'
  | nothing {s' : σ} : cur.Fetches →
      (source.fetch cur.position cur.limit).run s = (.ok [], s') →
      Does source cur s (.ok none) (cur.receive []).close s'

theorem limit_le (cur : Cursor α) : cur.limit ≤ cur.settings.pageSize.toNat := by
  unfold limit
  split
  · exact Nat.min_le_left _ _
  · exact Nat.le_refl _

theorem Fetches.more (fetches : cur.Fetches) : cur.fetchesNoMore = false := by
  have page : cur.settings.pageSize ≠ 0 := by
    intro none
    have le := limit_le cur
    rw [none] at le
    exact fetches.some (Nat.le_zero.mp le)
  simp [fetchesNoMore, fetches.going, fetches.opened, page]

theorem Fetches.demand (fetches : cur.Fetches) : cur.demand = .page cur.position cur.limit := by
  simp [Cursor.demand, fetches.empty, fetches.going, fetches.opened, fetches.some]

/-- A cursor without a page that needs none says that there are no more rows, and is closed. -/
theorem demand_answer {row : Option α} (empty : cur.buffer = [])
    (demand : cur.demand = .answer row after) :
    row = none ∧ ∃ exhausted, after = { cur with exhausted, closed := true } := by
  have closes : cur.close = { cur with exhausted := true, closed := true } := by
    rw [close, ← empty]
  simp only [Cursor.demand, empty] at demand
  split at demand
  · cases demand
    exact ⟨rfl, true, closes⟩
  split at demand
  · next closed =>
    cases demand
    exact ⟨rfl, cur.exhausted, by rw [← closed]⟩
  split at demand
  · cases demand
    exact ⟨rfl, true, closes⟩
  · cases demand

/-- A cursor asks for a page only while it is open, and for one row at least. -/
theorem demand_fetch (empty : cur.buffer = []) (fetches : cur.fetchesNoMore = false)
    (demand : cur.demand = .page cur.position cur.limit) : cur.Fetches := by
  simp only [fetchesNoMore, Bool.or_eq_false_iff] at fetches
  refine ⟨empty, fetches.1.1, fetches.1.2, fun zero => ?_⟩
  unfold Cursor.demand at demand
  split at demand
  · cases demand
  · simp [fetches.1.1, fetches.1.2, zero] at demand

/-- A call that needs a page fails with the fetch, or looks for its row in the page. -/
theorem next_page {offset limit : Nat} (demand : cur.demand = .page offset limit) (s : σ) :
    (cur.next source).run s = (match ((source.fetch offset limit).run s).1 with
      | .error failure => (.error failure, cur)
      | .ok page => (.ok (cur.receive page).pop.1, (cur.receive page).pop.2),
      ((source.fetch offset limit).run s).2) := by
  rw [Cursor.next, demand]
  simp only [StateT.run_bind]
  generalize (source.fetch offset limit).run s = asked
  cases asked with
  | mk answer s' => cases answer <;> rfl

theorem next_does (source : Source (StateM σ) α) (cur : Cursor α) (s : σ) :
    Does source cur s ((cur.next source).run s).1.1 ((cur.next source).run s).1.2
      ((cur.next source).run s).2 := by
  cases buffer : cur.buffer with
  | cons row rest =>
    have demand : cur.demand = .answer (some row) { cur with buffer := rest } := by
      rw [Cursor.demand, buffer]
    rw [Cursor.next, demand]
    exact .row buffer
  | nil =>
    rcases demand_cases buffer with ⟨row, next, demand, nothing⟩ | ⟨demand, fetches⟩
    · obtain ⟨rfl, exhausted, rfl⟩ := demand_answer buffer demand
      rw [Cursor.next, demand]
      refine .ended buffer (fun fetches => ?_) nothing
      rw [fetches.demand] at demand
      cases demand
    · rw [next_page demand]
      have fetches := demand_fetch buffer fetches demand
      cases asked : (source.fetch cur.position cur.limit).run s with
      | mk answer s' =>
        rcases answer with failure | ⟨_ | ⟨row, rest⟩⟩
        · exact .failed fetches asked
        · exact .nothing fetches asked
        · exact .page fetches asked

theorem does_of_next {s s' : σ} {answer : Except Failure (Option α)}
    (called : (cur.next source).run s = ((answer, after), s')) :
    Does source cur s answer after s' := by
  have does := next_does source cur s
  rwa [called] at does

/-- The rows that a cursor has still to give. -/
def left (rows : List α) (cur : Cursor α) : List α :=
  cur.buffer ++ cur.owed rows

/-- A cursor that was asked for some more rows. -/
structure Passes (cur next : Cursor α) (n : Nat) : Prop where
  settings : next.settings = cur.settings
  range : next.range = cur.range
  size : next.size = cur.size
  /-- The first row that is not given yet stands so much further on. -/
  place : next.position + cur.buffer.length = cur.position + next.buffer.length + n

/-- What a call for the next row can answer, and which cursor it leaves. -/
inductive Gives (source : Source (StateM σ) α) (rows : List α) (cur : Cursor α) (s : σ) :
    Except Failure (Option α) → Cursor α → Prop
  | row {row : α} {next : Cursor α} : cur.left rows = row :: next.left rows →
      next.closed = cur.closed → cur.Passes next 1 → Gives source rows cur s (.ok (some row)) next
  | ended {next : Cursor α} : cur.left rows = [] → next.left rows = [] → next.closed = true →
      cur.Passes next 0 → Gives source rows cur s (.ok none) next
  | failed {failure : Failure} : cur.closed = false → cur.buffer = [] → cur.limit ≠ 0 →
      ((source.fetch cur.position cur.limit).run s).1 = .error failure →
      Gives source rows cur s (.error failure) cur

theorem left_closed (rows : List α) (closed : cur.closed = true) (empty : cur.buffer = []) :
    cur.left rows = [] := by
  simp [left, owed, fetchesNoMore, closed, empty]

theorem owed_exhausted (rows : List α) (exhausted : cur.exhausted = true) :
    cur.owed rows = [] := by
  simp [owed, fetchesNoMore, exhausted]

/-- Looking for a row in the page that was received. -/
theorem pop_gives (source : Source (StateM σ) α) (rows : List α) (fetches : cur.Fetches) (s : σ) :
    let got := cur.receive ((rows.drop cur.position).take cur.limit)
    Gives source rows cur s (.ok got.pop.1) got.pop.2 := by
  obtain ⟨whole, nonempty⟩ := owed_receive rows fetches.more
  generalize page : (rows.drop cur.position).take cur.limit = received at whole nonempty ⊢
  have before : cur.left rows = cur.owed rows := by rw [left, fetches.empty, List.nil_append]
  cases received with
  | nil =>
    -- A page without rows is the last one.
    have exhausted : (cur.receive []).exhausted = true := by
      cases ended : (cur.receive []).exhausted with
      | true => rfl
      | false => exact absurd rfl (nonempty ended)
    rw [owed_exhausted rows exhausted] at whole
    refine .ended (before.trans whole.symm) (left_closed rows rfl rfl) rfl ⟨rfl, rfl, rfl, ?_⟩
    rw [fetches.empty]
    rfl
  | cons row rest =>
    refine .row (before.trans whole.symm) rfl ⟨rfl, rfl, rfl, ?_⟩
    rw [fetches.empty]
    rfl

theorem next_gives (serves : source.Serves rows) (cur : Cursor α) (s : σ) :
    Gives source rows cur s ((cur.next source).run s).1.1 ((cur.next source).run s).1.2 := by
  have does := next_does source cur s
  generalize (cur.next source).run s = called at does ⊢
  obtain ⟨⟨answer, next⟩, s'⟩ := called
  cases does with
  | @row row rest buffer =>
    refine .row ?_ rfl ⟨rfl, rfl, rfl, ?_⟩
    · rw [left, buffer]
      rfl
    · rw [buffer, List.length_cons]
      exact (Nat.add_assoc _ _ _).symm
  | ended empty _ nothing =>
    have spent : cur.left rows = [] := by rw [left, empty, nothing, List.append_nil]
    exact .ended spent (left_closed rows rfl empty) rfl ⟨rfl, rfl, rfl, rfl⟩
  | failed fetches failed =>
    exact .failed fetches.opened fetches.empty fetches.some (congrArg Prod.fst failed)
  | page fetches fetched =>
    have gives := pop_gives source rows fetches s
    rwa [← serves _ _ _ _ (congrArg Prod.fst fetched)] at gives
  | nothing fetches fetched =>
    have gives := pop_gives source rows fetches s
    rwa [← serves _ _ _ _ (congrArg Prod.fst fetched)] at gives

theorem gives_of_next (serves : source.Serves rows) {s s' : σ}
    {answer : Except Failure (Option α)}
    (called : (cur.next source).run s = ((answer, after), s')) :
    Gives source rows cur s answer after := by
  have gives := next_gives serves cur s
  rwa [called] at gives

/-! ## 2. Many calls -/

/-- A cursor over a range, or over all rows, that was not asked for any row yet. -/
def fresh (settings : CursorSettings) : Option (Nat × Nat) → Cursor α
  | some (first, last) => between settings first last
  | none => new settings

/-- The rows of a range, or all of them. -/
def slice (rows : List α) : Option (Nat × Nat) → List α
  | some (first, last) => (rows.take last).drop first
  | none => rows

/-- The offset at which a range begins. -/
def beginning : Option (Nat × Nat) → Nat
  | some (first, _) => first
  | none => 0

/-- The calls that were made to a cursor: the answers of those for the next row, and the cursor
after all of them. The rows may have been counted in between, and the source is in any state at each
call. -/
inductive Run (source : Source (StateM σ) α) (start : Cursor α) :
    List (Except Failure (Option α)) → Cursor α → Prop
  | nil : Run source start [] start
  | next {answers : List (Except Failure (Option α))} {cur : Cursor α} (s : σ) :
      Run source start answers cur →
      Run source start (answers ++ [((cur.next source).run s).1.1]) ((cur.next source).run s).1.2
  | measure {answers : List (Except Failure (Option α))} {cur : Cursor α} (s : σ) :
      Run source start answers cur → Run source start answers ((cur.measure source).run s).1.2
  | splits {answers : List (Except Failure (Option α))} {cur : Cursor α} (s : σ) :
      Run source start answers cur → Run source start answers ((cur.splits source).run s).1.2

theorem Run.call {start : Cursor α} {answer : Except Failure (Option α)} {s : σ}
    (run : Run source start answers cur)
    (called : ((cur.next source).run s).1 = (answer, after)) :
    Run source start (answers ++ [answer]) after := by
  have run := run.next s
  rwa [called] at run

/-- The rows among some answers. -/
def given (answers : List (Except Failure (Option α))) : List α :=
  answers.filterMap fun answer => answer.toOption.join

theorem given_snoc (answers : List (Except Failure (Option α)))
    (answer : Except Failure (Option α)) :
    given (answers ++ [answer]) = given answers ++ answer.toOption.join.toList := by
  rw [given, List.filterMap_append]
  cases row : answer.toOption.join <;> simp [given, row]

/-- An open cursor that does not know the number of its rows asks its source for it, and remembers
it if it comes. -/
theorem measure_asks (opened : cur.closed = false) (unknown : cur.size = none) (s : σ) :
    (cur.measure source).run s = (((source.count.run s).1,
      { cur with size := (source.count.run s).1.toOption }), (source.count.run s).2) := by
  have same : cur = { cur with size := none } := by rw [← unknown]
  rw [measure, unknown]
  dsimp only
  rw [if_neg (Bool.eq_false_iff.mp opened), StateT.run_bind]
  generalize source.count.run s = asked
  obtain ⟨answer, s'⟩ := asked
  cases answer with
  | error failure => exact congrArg (fun cur => ((Except.error failure, cur), s')) same
  | ok n => rfl

/-- What counting the rows of a cursor does. -/
inductive Measures (source : Source (StateM σ) α) (cur : Cursor α) (s : σ) :
    Except Failure Nat → Cursor α → σ → Prop
  | known {n : Nat} : cur.size = some n → Measures source cur s (.ok n) cur s
  | closed : cur.size = none → cur.closed = true →
      Measures source cur s (.ok 0) { cur with size := some 0 } s
  | asked {answer : Except Failure Nat} {s' : σ} : cur.size = none → cur.closed = false →
      source.count.run s = (answer, s') →
      Measures source cur s answer { cur with size := answer.toOption } s'

theorem measure_measures (source : Source (StateM σ) α) (cur : Cursor α) (s : σ) :
    Measures source cur s ((cur.measure source).run s).1.1 ((cur.measure source).run s).1.2
      ((cur.measure source).run s).2 := by
  cases size : cur.size with
  | some n =>
    rw [measure, size]
    exact .known size
  | none =>
    cases closed : cur.closed with
    | true =>
      rw [measure, size]
      dsimp only
      rw [if_pos closed]
      exact .closed size closed
    | false =>
      rw [measure_asks closed size]
      exact .asked size closed rfl

/-- The number of rows is known once it was answered. -/
theorem Measures.size {s s' : σ} {n : Nat} (measures : Measures source cur s (.ok n) after s') :
    after.size = some n := by
  cases measures with
  | known size => exact size
  | closed _ _ => rfl
  | asked _ _ _ => rfl

/-- Counting the rows changes nothing but what is known of their number. -/
theorem Measures.same {s s' : σ} {answer : Except Failure Nat}
    (measures : Measures source cur s answer after s') : ∃ size, after = { cur with size } := by
  cases measures with
  | known _ => exact ⟨_, rfl⟩
  | closed _ _ => exact ⟨_, rfl⟩
  | asked _ _ _ => exact ⟨_, rfl⟩

theorem measure_size (source : Source (StateM σ) α) (cur : Cursor α) (s : σ) :
    ∃ size, ((cur.measure source).run s).1.2 = { cur with size } :=
  (measure_measures source cur s).same

theorem splits_size (source : Source (StateM σ) α) (cur : Cursor α) (s : σ) :
    ∃ size, ((cur.splits source).run s).1.2 = { cur with size } := by
  unfold splits
  split
  · exact ⟨cur.size, rfl⟩
  · obtain ⟨size, counted⟩ := measure_size source cur s
    exact ⟨size, counted⟩

/-- What the answers so far say about a cursor. -/
structure Stands (settings : CursorSettings) (range : Option (Nat × Nat)) (rows : List α)
    (answers : List (Except Failure (Option α))) (cur : Cursor α) : Prop where
  configured : cur.settings = settings
  bounded : cur.range = range
  whole : given answers ++ cur.left rows = slice rows range
  place : cur.position = beginning range + (given answers).length + cur.buffer.length
  ended : .ok none ∈ answers ↔ cur.closed = true
  closed : cur.closed = true → cur.left rows = []

theorem stands_fresh (somePage : settings.pageSize ≠ 0) (range : Option (Nat × Nat))
    (rows : List α) : Stands settings range rows [] (fresh settings range) := by
  cases range with
  | none =>
    refine ⟨rfl, rfl, ?_, rfl, by simp [fresh, new],
      fun closed => absurd closed Bool.false_ne_true⟩
    change (new settings).owed rows = rows
    rw [owed_new, if_neg somePage]
  | some ends =>
    refine ⟨rfl, rfl, ?_, rfl, by simp [fresh, between],
      fun closed => absurd closed Bool.false_ne_true⟩
    change (between settings ends.1 ends.2).owed rows = (rows.take ends.2).drop ends.1
    rw [owed_between, if_neg somePage]

/-- Once the end was reached every call finds it again. -/
theorem Stands.again (stands : Stands settings range rows answers cur) {s : σ}
    {answer : Except Failure (Option α)} (gives : Gives source rows cur s answer after)
    (ended : .ok none ∈ answers) : answer = .ok none := by
  have closed := stands.ended.mp ended
  cases gives with
  | row left _ _ =>
    rw [stands.closed closed] at left
    cases left
  | ended _ _ _ _ => rfl
  | failed opened _ _ _ =>
    rw [opened] at closed
    cases closed

theorem Stands.next (stands : Stands settings range rows answers cur) {s : σ}
    {answer : Except Failure (Option α)} (gives : Gives source rows cur s answer after) :
    Stands settings range rows (answers ++ [answer]) after := by
  have again := stands.again gives
  cases gives with
  | @row row _ left same passes =>
    have taken : given (answers ++ [.ok (some row)]) = given answers ++ [row] := given_snoc _ _
    have length := passes.place
    rw [stands.place] at length
    refine ⟨passes.settings.trans stands.configured, passes.range.trans stands.bounded, ?_, ?_, ?_, ?_⟩
    · rw [taken, List.append_assoc, List.singleton_append, ← left]
      exact stands.whole
    · rw [taken, List.length_append, List.length_singleton]
      omega
    · rw [same, ← stands.ended]
      simp
    · intro closed
      rw [same] at closed
      rw [stands.closed closed] at left
      cases left
  | ended nothing nothing' closed passes =>
    have taken : given (answers ++ [.ok none]) = given answers :=
      (given_snoc _ _).trans (List.append_nil _)
    have length := passes.place
    rw [stands.place] at length
    refine ⟨passes.settings.trans stands.configured, passes.range.trans stands.bounded, ?_, ?_,
      iff_of_true (by simp) closed, fun _ => nothing'⟩
    · rw [taken, nothing', ← stands.whole, nothing]
    · rw [taken]
      omega
  | @failed failure _ _ _ _ =>
    have taken : given (answers ++ [.error failure]) = given answers :=
      (given_snoc _ _).trans (List.append_nil _)
    refine ⟨stands.configured, stands.bounded, ?_, ?_, ?_, stands.closed⟩
    · rw [taken]
      exact stands.whole
    · rw [taken]
      exact stands.place
    · rw [← stands.ended]
      simp

theorem Stands.counted (stands : Stands settings range rows answers cur) (size : Option Nat) :
    Stands settings range rows answers { cur with size } :=
  ⟨stands.configured, stands.bounded, stands.whole, stands.place, stands.ended, stands.closed⟩

theorem Run.stands (serves : source.Serves rows) (somePage : settings.pageSize ≠ 0)
    (run : Run source (fresh settings range) answers cur) :
    Stands settings range rows answers cur := by
  induction run with
  | nil => exact stands_fresh somePage range rows
  | next s _ ih => exact ih.next (next_gives serves _ s)
  | measure s _ ih =>
    obtain ⟨size, counted⟩ := measure_size source _ s
    rw [counted]
    exact ih.counted size
  | splits s _ ih =>
    obtain ⟨size, counted⟩ := splits_size source _ s
    rw [counted]
    exact ih.counted size

/-! ## 3. Delivery -/

/-- A cursor over all rows or over a range gives the rows of its range in order, each once, whichever
fetches fail. After any calls, the next one gives the row that follows the rows given so far, or it
finds the end, and then all rows were given. It fails only if its fetch of the rows that follow
fails, and leaves the cursor as it was, so the call after it asks for the same rows. The cursor is
closed once the end was found, and from then on every call finds the end. -/
theorem Run.gives_each_row (serves : source.Serves rows) (somePage : settings.pageSize ≠ 0)
    (run : Run source (fresh settings range) answers cur) (s : σ) :
    let part := slice rows range
    let taken := given answers
    let call := ((cur.next source).run s).1
    taken <+: part ∧
    (∀ row, call.1 = .ok (some row) → part[taken.length]? = some row) ∧
    (call.1 = .ok none → taken = part) ∧
    (∀ failure, call.1 = .error failure → call.2 = cur ∧
      ∃ limit ≠ 0,
        ((source.fetch (beginning range + taken.length) limit).run s).1 = .error failure) ∧
    (.ok none ∈ answers ↔ cur.closed = true) ∧ (.ok none ∈ answers → call.1 = .ok none) := by
  intro part taken call
  have stands := run.stands serves somePage
  have gives := next_gives serves cur s
  have whole : taken ++ cur.left rows = part := stands.whole
  change Gives source rows cur s call.1 call.2 at gives
  refine ⟨⟨_, whole⟩, fun row found => ?_, fun found => ?_, fun failure found => ?_, stands.ended,
    stands.again gives⟩
  · rw [found] at gives
    cases gives with
    | row left _ _ => simp [← whole, left]
  · rw [found] at gives
    cases gives with
    | ended nothing _ _ _ => rw [← whole, nothing, List.append_nil]
  · rw [found] at gives
    have place := stands.place
    generalize call.2 = after at gives ⊢
    cases gives with
    | failed _ empty some fetched =>
      rw [empty] at place
      exact ⟨rfl, cur.limit, some, place ▸ fetched⟩

/-- Pages hold two of the three rows of a range. The fetches of both pages fail once. -/
theorem Run.gives_each_row_retried :
    let rows := [10, 11, 12, 13, 14]
    let source : Source (StateM Bool) Nat :=
      ⟨fun fails => (.ok 5, fails), fun offset limit fails =>
        (if fails then .error .closed else .ok ((rows.drop offset).take limit), fails)⟩
    let settings : CursorSettings := { CursorSettings.standard with pageSize := 2 }
    let answers : List (Except Failure (Option Nat)) :=
      [.error .closed, .ok (some 11), .ok (some 12), .error .closed]
    let cur : Cursor Nat := ⟨settings, some (1, 4), some 3, 3, [], false, false⟩
    source.Serves rows ∧ settings.pageSize ≠ 0 ∧
      Run source (fresh settings (some (1, 4))) answers cur ∧ [11, 12] <+: [11, 12, 13] ∧
      ((cur.next source).run false).1.1 = .ok (some 13) ∧ [11, 12, 13][2]? = some 13 ∧
      ((cur.next source).run true).1.1 = .error .closed ∧
      ((cur.next source).run true).1.2 = cur := by
  intro rows source settings answers cur
  have serves : source.Serves rows := by
    intro offset limit fails page fetched
    cases fails with
    | true => cases fetched
    | false => exact (Except.ok.inj fetched).symm
  have page : settings.pageSize ≠ 0 := by decide
  let start : Cursor Nat := fresh settings (some (1, 4))
  have refused : Run source start [.error .closed] start := Run.nil.call (s := true) rfl
  have paged : Run source start [.error .closed, .ok (some 11)] { cur with buffer := [12] } :=
    refused.call (s := false) rfl
  have popped : Run source start [.error .closed, .ok (some 11), .ok (some 12)] cur :=
    paged.call (s := true) rfl
  have run : Run source start answers cur := popped.call (s := true) rfl
  obtain ⟨first, row, -, -, -, -⟩ := run.gives_each_row serves page false
  obtain ⟨-, -, -, failure, -, -⟩ := run.gives_each_row serves page true
  exact ⟨serves, page, run, first, rfl, row 13 rfl, rfl, (failure .closed rfl).1⟩

end Cursor

end TaskQueue
