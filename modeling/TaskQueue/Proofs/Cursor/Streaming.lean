import TaskQueue.Proofs.Cursor.Queries

/-!
# Streams

A cursor is read to its end into a list, or as a stream of items. Both call for the next row until
the end or the first failure. The list is lost with a failure, while the stream gives the rows first
and then the failure, with which its cursor is closed.

Results:
1. `Drains`: what calls for the next row give, up to the end or the first failure.
2. `returns_iff`, `yields_iff`: the list and the stream in these terms.
3. `Drains.breaks`: the queries that are made up to a failure, and the rows that were given then.
4. `stream_agrees`: the list and the stream of any cursor.
-/

namespace TaskQueue.Cursor

variable {σ α : Type} {source : Source (StateM σ) α} {cur : Cursor α} {s after : σ}
  {rows : List α} {stop : Option Failure}

/-! ## 1. Reading up to a failure -/

/-- The rows that calls for the next row give, up to the end or the first failure, and the state
that they leave of the source. -/
inductive Drains (source : Source (StateM σ) α) :
    Cursor α → σ → List α → Option Failure → σ → Prop
  | ended {cur rest : Cursor α} {s after : σ} :
      (cur.next source).run s = ((.ok none, rest), after) → Drains source cur s [] none after
  | failed {cur rest : Cursor α} {s after : σ} {failure : Failure} :
      (cur.next source).run s = ((.error failure, rest), after) →
      Drains source cur s [] (some failure) after
  | row {cur rest : Cursor α} {s s' after : σ} {row : α} {rows : List α}
      {stop : Option Failure} :
      (cur.next source).run s = ((.ok (some row), rest), s') →
      Drains source rest s' rows stop after → Drains source cur s (row :: rows) stop after

/-- What the list says of them: all rows, or the failure alone. -/
def outcome (rows : List α) : Option Failure → Except Failure (List α)
  | none => .ok rows
  | some failure => .error failure

/-- What the stream says of them: the rows, and then the failure. -/
def items (rows : List α) (stop : Option Failure) : List (Except Failure α) :=
  rows.map .ok ++ (stop.map .error).toList

/-- What a stream makes of an answer. -/
def item : Except Failure (Option α) → Cursor α → Option (Except Failure α × Cursor α)
  | .ok (some row), rest => some (.ok row, rest)
  | .ok none, _ => none
  | .error failure, rest => some (.error failure, rest.close)

theorem emit_next {answer : Except Failure (Option α)} {rest : Cursor α}
    (called : (cur.next source).run s = ((answer, rest), after)) :
    (cur.emit source).run s = (item answer rest, after) := by
  rw [emit, StateT.run_bind, called]
  rcases answer with failure | none | row <;> rfl

/-- Nothing comes after a cursor was closed, and nothing is asked for. -/
theorem emit_close (source : Source (StateM σ) α) (cur : Cursor α) (s : σ) :
    (cur.close.emit source).run s = (none, s) :=
  rfl

theorem stream_end (ended : (cur.emit source).run s = (none, after)) (bound : Nat) :
    (cur.stream source (bound + 1)).run s = ([], after) := by
  rw [stream, StateT.run_bind, ended]
  rfl

theorem stream_emit {first : Except Failure α} {rest : Cursor α}
    (emitted : (cur.emit source).run s = (some (first, rest), after)) (bound : Nat) :
    (cur.stream source (bound + 1)).run s =
      (first :: ((rest.stream source bound).run after).1,
        ((rest.stream source bound).run after).2) := by
  rw [stream, StateT.run_bind, emitted]
  rfl

theorem collect_row {row : α} {rest : Cursor α}
    (called : (cur.next source).run s = ((.ok (some row), rest), after)) (bound : Nat) :
    (cur.collect source (bound + 1)).run s =
      (((rest.collect source bound).run after).1.map (row :: ·),
        ((rest.collect source bound).run after).2) := by
  rw [collect, StateT.run_bind, called]
  rfl

theorem Drains.collect (drains : Drains source cur s rows stop after) {bound : Nat}
    (enough : rows.length < bound) :
    (cur.collect source bound).run s = (outcome rows stop, after) := by
  induction drains generalizing bound with
  | ended called =>
    obtain ⟨bound, rfl⟩ := Nat.exists_eq_add_one_of_ne_zero (Nat.ne_zero_of_lt enough)
    rw [Cursor.collect, StateT.run_bind, called]
    rfl
  | failed called =>
    obtain ⟨bound, rfl⟩ := Nat.exists_eq_add_one_of_ne_zero (Nat.ne_zero_of_lt enough)
    rw [Cursor.collect, StateT.run_bind, called]
    rfl
  | @row _ _ _ _ _ _ _ stop called _ ih =>
    obtain ⟨bound, rfl⟩ := Nat.exists_eq_add_one_of_ne_zero (Nat.ne_zero_of_lt enough)
    rw [collect_row called, ih (Nat.lt_of_succ_lt_succ enough)]
    cases stop <;> rfl

theorem Drains.stream (drains : Drains source cur s rows stop after) {bound : Nat}
    (enough : rows.length < bound) :
    (cur.stream source bound).run s = (items rows stop, after) := by
  induction drains generalizing bound with
  | ended called =>
    obtain ⟨bound, rfl⟩ := Nat.exists_eq_add_one_of_ne_zero (Nat.ne_zero_of_lt enough)
    exact stream_end (emit_next called) bound
  | @failed _ rest _ after _ called =>
    obtain ⟨bound, rfl⟩ := Nat.exists_eq_add_one_of_ne_zero (Nat.ne_zero_of_lt enough)
    rw [stream_emit (emit_next called)]
    -- The cursor is closed, so the stream is at its end, however large the bound is.
    cases bound with
    | zero => rfl
    | succ bound =>
      rw [stream_end (emit_close source rest after)]
      rfl
  | row called _ ih =>
    obtain ⟨bound, rfl⟩ := Nat.exists_eq_add_one_of_ne_zero (Nat.ne_zero_of_lt enough)
    rw [stream_emit (emit_next called), ih (Nat.lt_of_succ_lt_succ enough)]
    rfl

/-- A cursor is read to its end or to a failure, or the bound cuts off what it gives. -/
theorem drains_cases (source : Source (StateM σ) α) (bound : Nat) (cur : Cursor α) (s : σ) :
    (∃ rows stop after, Drains source cur s rows stop after ∧ rows.length < bound) ∨
      (∃ rows, ((cur.collect source bound).run s).1 = .ok rows ∧ rows.length = bound) ∧
        ((cur.stream source bound).run s).1.length = bound := by
  induction bound generalizing cur s with
  | zero => exact .inr ⟨⟨[], rfl, rfl⟩, rfl⟩
  | succ bound ih =>
    rcases called : (cur.next source).run s with ⟨⟨answer, rest⟩, after⟩
    rcases answer with failure | none | row
    · exact .inl ⟨[], some failure, after, .failed called, Nat.succ_pos bound⟩
    · exact .inl ⟨[], none, after, .ended called, Nat.succ_pos bound⟩
    · rcases ih rest after with
        ⟨rows, stop, last, drains, few⟩ | ⟨⟨rows, collected, many⟩, streamed⟩
      · exact .inl ⟨row :: rows, stop, last, .row called drains, Nat.succ_lt_succ few⟩
      · refine .inr ⟨⟨row :: rows, ?_, congrArg Nat.succ many⟩, ?_⟩
        · rw [collect_row called, collected]
          rfl
        · rw [stream_emit (emit_next called)]
          exact congrArg Nat.succ streamed

/-- Reading comes to an end if the source has only so many rows: each row given is one less that is
left. -/
theorem drains_served (serves : source.Serves rows) (cur : Cursor α) (s : σ) :
    ∃ given stop after, Drains source cur s given stop after := by
  rcases called : (cur.next source).run s with ⟨⟨answer, rest⟩, after⟩
  rcases answer with failure | none | row
  · exact ⟨[], some failure, after, .failed called⟩
  · exact ⟨[], none, after, .ended called⟩
  · have fewer : (rest.left rows).length < (cur.left rows).length := by
      cases gives_of_next serves called with
      | row left _ _ =>
        rw [left]
        exact Nat.lt_succ_self _
    obtain ⟨given, stop, last, drains⟩ := drains_served serves rest after
    exact ⟨row :: given, stop, last, .row called drains⟩
termination_by (cur.left rows).length

/-- Reading up to the end gives all rows that are left. -/
theorem Drains.whole {given : List α} (serves : source.Serves rows)
    (drains : Drains source cur s given stop after) (ended : stop = none) :
    cur.left rows = given := by
  induction drains with
  | failed _ => cases ended
  | ended called =>
    cases gives_of_next serves called with
    | ended nothing _ _ _ => exact nothing
  | row called _ ih =>
    cases gives_of_next serves called with
    | row left _ _ => rw [left, ih ended]

/-! ## 2. Lists and streams -/

/-- Reading a cursor into a list returns a result, whatever the bound if it is large enough. -/
def Returns (source : Source (StateM σ) α) (cur : Cursor α) (s : σ)
    (result : Except Failure (List α)) (after : σ) : Prop :=
  ∃ enough, ∀ bound ≥ enough, (cur.collect source bound).run s = (result, after)

/-- Reading a cursor as a stream gives some items, and then the stream ends. -/
def Yields (source : Source (StateM σ) α) (cur : Cursor α) (s : σ)
    (items : List (Except Failure α)) (after : σ) : Prop :=
  ∃ enough, ∀ bound ≥ enough, (cur.stream source bound).run s = (items, after)

theorem returns_iff {result : Except Failure (List α)} : Returns source cur s result after ↔
    ∃ rows stop, Drains source cur s rows stop after ∧ result = outcome rows stop := by
  constructor
  · rintro ⟨enough, returns⟩
    -- A larger bound would cut off more rows, but the result is the same.
    let bound := enough + (result.toOption.getD []).length + 1
    have returned : (cur.collect source bound).run s = (result, after) :=
      returns bound (Nat.le_add_right_of_le (Nat.le_add_right _ _))
    rcases drains_cases source bound cur s with
      ⟨rows, stop, last, drains, few⟩ | ⟨⟨rows, collected, many⟩, -⟩
    · rw [drains.collect few] at returned
      obtain ⟨rfl, rfl⟩ := Prod.mk.inj returned
      exact ⟨rows, stop, drains, rfl⟩
    · rw [returned] at collected
      obtain rfl : result = .ok rows := collected
      have cut : rows.length = enough + rows.length + 1 := many
      omega
  · rintro ⟨rows, stop, drains, rfl⟩
    exact ⟨rows.length + 1, fun _ enough => drains.collect enough⟩

theorem yields_iff {all : List (Except Failure α)} : Yields source cur s all after ↔
    ∃ rows stop, Drains source cur s rows stop after ∧ all = items rows stop := by
  constructor
  · rintro ⟨enough, yields⟩
    let bound := enough + all.length + 1
    have yielded : (cur.stream source bound).run s = (all, after) :=
      yields bound (Nat.le_add_right_of_le (Nat.le_add_right _ _))
    rcases drains_cases source bound cur s with ⟨rows, stop, last, drains, few⟩ | ⟨-, many⟩
    · rw [drains.stream few] at yielded
      obtain ⟨rfl, rfl⟩ := Prod.mk.inj yielded
      exact ⟨rows, stop, drains, rfl⟩
    · rw [yielded] at many
      have cut : all.length = enough + all.length + 1 := many
      omega
  · rintro ⟨rows, stop, drains, rfl⟩
    exact ⟨rows.length + 1, fun _ enough => drains.stream enough⟩

theorem outcome_ok_iff {given : List α} : .ok given = outcome rows stop ↔
    given = rows ∧ stop = none := by
  cases stop <;> simp [outcome]

theorem outcome_error_iff {failure : Failure} : .error failure = outcome rows stop ↔
    stop = some failure := by
  cases stop <;> simp [outcome, eq_comm]

theorem items_ok_iff {given : List α} : given.map .ok = items rows stop ↔
    given = rows ∧ stop = none := by
  cases stop with
  | none =>
    have inj : Function.Injective (Except.ok : α → Except Failure α) := fun _ _ => Except.ok.inj
    simp [items, List.map_inj_right inj]
  | some failure =>
    refine iff_of_false (fun same => ?_) nofun
    have member : .error failure ∈ given.map Except.ok := by simp [same, items]
    simp at member

/-! ## 3. Queries up to a failure -/

/-- What a cursor gives up to a failure, the queries that it makes before the one that fails, and
the offset of that one. -/
structure Breaks (source : Source (StateM σ) α) (cur : Cursor α) (rows : List α)
    (pages : List (Note α)) (offset : Nat) : Prop where
  came : ∀ note ∈ pages, ∃ offset limit page, note = .fetched offset limit (.ok page)
  given : rows = cur.buffer ++ pages.flatMap Note.page
  place : offset = cur.position + (pages.flatMap Note.page).length
  /-- The cursor had these rows left, and those of its range from that offset on. -/
  left : ∀ all, source.Serves all → cur.left all = rows ++ (cur.within all).drop offset

theorem Drains.breaks {s after : σ × List (Note α)} {failure : Failure}
    (drains : Drains source.noted cur s rows stop after) (failed : stop = some failure) :
    ∃ pages offset limit, Breaks source cur rows pages offset ∧
      after.2 = s.2 ++ pages ++ [.fetched offset limit (.error failure)] := by
  induction drains with
  | ended _ => cases failed
  | @failed cur rest s after _ called =>
    cases failed
    cases does_of_next called with
    | failed fetches refused =>
      obtain ⟨-, noted⟩ := Source.fetch_noted refused
      refine ⟨[], cur.position, cur.limit, ⟨List.forall_mem_nil _, ?_, rfl, ?_⟩, ?_⟩
      · rw [fetches.empty]
        rfl
      · intro all _
        rw [left, fetches.empty, owed, fetches.more]
        rfl
      · rw [noted, List.append_nil]
  | @row cur rest s s' after row rows _ called _ ih =>
    obtain ⟨pages, offset, limit, breaks, noted⟩ := ih failed
    have left (all : List α) (serves : source.Serves all) :
        cur.left all = row :: rows ++ (cur.within all).drop offset := by
      cases gives_of_next serves.noted called with
      | row left _ passes =>
        have same : Cursor.within all rest = cur.within all := by
          rw [Cursor.within, passes.range]
          rfl
        rw [left, breaks.left all serves, same]
        rfl
    cases does_of_next called with
    | row buffer =>
      refine ⟨pages, offset, limit, ⟨breaks.came, ?_, breaks.place, left⟩, noted⟩
      rw [breaks.given, buffer]
      rfl
    | @page _ tail _ fetches fetched =>
      obtain ⟨-, noted'⟩ := Source.fetch_noted fetched
      refine ⟨.fetched cur.position cur.limit (.ok (row :: tail)) :: pages, offset, limit,
        ⟨?_, ?_, ?_, left⟩, ?_⟩
      · exact List.forall_mem_cons.mpr ⟨⟨_, _, _, rfl⟩, breaks.came⟩
      · rw [breaks.given, fetches.empty]
        rfl
      · rw [breaks.place, List.flatMap_cons, List.length_append]
        exact Nat.add_assoc _ _ _
      · rw [noted, noted', ← List.append_cons]

/-! ## 4. Agreement -/

/-- Polling a stream for some items, and the cursor that it goes on with. -/
inductive Emits (source : Source (StateM σ) α) :
    Cursor α → σ → List (Except Failure α) → Cursor α → σ → Prop
  | nil {cur : Cursor α} {s : σ} : Emits source cur s [] cur s
  | cons {cur rest last : Cursor α} {s s' after : σ} {first : Except Failure α}
      {others : List (Except Failure α)} :
      (cur.emit source).run s = (some (first, rest), s') → Emits source rest s' others last after →
      Emits source cur s (first :: others) last after

theorem Drains.emits {failure : Failure} (drains : Drains source cur s rows stop after)
    (failed : stop = some failure) :
    ∃ last : Cursor α, Emits source cur s (items rows stop) last.close after := by
  induction drains with
  | ended _ => cases failed
  | @failed _ rest _ _ _ called => exact ⟨rest, .cons (emit_next called) .nil⟩
  | row called _ ih =>
    obtain ⟨last, emits⟩ := ih failed
    exact ⟨last, .cons (emit_next called) emits⟩

/-- A cursor can be read into a list just if a stream of it gives the rows of the list and ends. If
reading it into a list fails, the stream gives the rows at hand and those of every page that comes
before the failure, then the failure, and it ends. The rows from the offset of the failed fetch on
are what it does not give. With the failure the cursor is closed, and nothing is asked for any more.
Either way the list and the stream make the same queries. If the source has only so many rows, one
of the two happens, and a list holds all that the cursor has left. -/
theorem stream_agrees (source : Source (StateM σ) α) (cur : Cursor α) (s : σ) :
    (∀ rows after, Returns source.noted cur (s, []) (.ok rows) after ↔
      Yields source.noted cur (s, []) (rows.map .ok) after) ∧
    (∀ failure after, Returns source.noted cur (s, []) (.error failure) after →
      ∃ rows pages offset limit, Breaks source cur rows pages offset ∧
        after.2 = pages ++ [.fetched offset limit (.error failure)] ∧
        Yields source.noted cur (s, []) (rows.map .ok ++ [.error failure]) after ∧
        ∃ last : Cursor α,
          Emits source.noted cur (s, []) (rows.map .ok ++ [.error failure]) last after ∧
            last.closed = true ∧ last.buffer = [] ∧
            ∀ now, (last.emit source.noted).run now = (none, now)) ∧
    ∀ all, source.Serves all →
      (∃ result after, Returns source.noted cur (s, []) result after) ∧
      ∀ rows after, Returns source.noted cur (s, []) (.ok rows) after → cur.left all = rows := by
  refine ⟨fun rows after => ?_, fun failure after returns => ?_, fun all serves =>
    ⟨?_, fun given after returns => ?_⟩⟩
  · rw [returns_iff, yields_iff]
    simp only [outcome_ok_iff, items_ok_iff]
  · obtain ⟨rows, stop, drains, failed⟩ := returns_iff.mp returns
    obtain rfl := outcome_error_iff.mp failed
    obtain ⟨pages, offset, limit, breaks, noted⟩ := drains.breaks rfl
    obtain ⟨last, emits⟩ := drains.emits rfl
    exact ⟨rows, pages, offset, limit, breaks, noted, yields_iff.mpr ⟨rows, _, drains, rfl⟩,
      last.close, emits, rfl, rfl, emit_close source.noted last⟩
  · obtain ⟨rows, stop, after, drains⟩ := drains_served serves.noted cur (s, [])
    exact ⟨_, after, returns_iff.mpr ⟨rows, stop, drains, rfl⟩⟩
  · obtain ⟨rows, stop, drains, returned⟩ := returns_iff.mp returns
    obtain ⟨rfl, ended⟩ := outcome_ok_iff.mp returned
    exact drains.whole serves.noted ended

/-- One row of the first page is still at hand. The next page comes, and the one after it fails, or
it comes too and is the last one. -/
theorem stream_agrees_partly_read :
    let rows := [10, 11, 12, 13, 14]
    let source : Source (StateM Nat) Nat :=
      ⟨fun n => (.ok 5, n), fun offset limit n =>
        (if n = 0 then .error .closed else .ok ((rows.drop offset).take limit), n - 1)⟩
    let cur : Cursor Nat := ⟨⟨2, 2, 10⟩, none, none, 2, [11], false, false⟩
    let pages : List (Note Nat) := [.fetched 2 2 (.ok [12, 13])]
    let after : Nat × List (Note Nat) := (0, pages ++ [.fetched 4 2 (.error .closed)])
    source.Serves rows ∧ Returns source.noted cur (1, []) (.error .closed) after ∧
      Breaks source cur [11, 12, 13] pages 4 ∧
      Yields source.noted cur (1, []) [.ok 11, .ok 12, .ok 13, .error .closed] after ∧
      cur.left rows = [11, 12, 13] ++ [14] ∧
      Yields source.noted cur (2, []) [.ok 11, .ok 12, .ok 13, .ok 14]
        (0, pages ++ [.fetched 4 2 (.ok [14])]) := by
  intro rows source cur pages after
  have serves : source.Serves rows := by
    intro offset limit n page fetched
    cases n with
    | zero => cases fetched
    | succ n => exact (Except.ok.inj fetched).symm
  have drains : Drains source.noted cur (1, []) [11, 12, 13] (some .closed) after := by
    dsimp only [source, cur, after, pages, rows]
    exact .row rfl (.row rfl (.row rfl (.failed rfl)))
  have returns : Returns source.noted cur (1, []) (.error .closed) after :=
    returns_iff.mpr ⟨_, _, drains, rfl⟩
  obtain ⟨-, fails, -⟩ := stream_agrees source cur 1
  obtain ⟨given, pages', offset, limit, breaks, noted, yields, -⟩ := fails _ _ returns
  obtain ⟨rfl, failed⟩ := List.append_inj' noted rfl
  cases failed
  obtain rfl : given = [11, 12, 13] := breaks.given
  have drains' : Drains source.noted cur (2, []) [11, 12, 13, 14] none
      (0, pages ++ [.fetched 4 2 (.ok [14])]) := by
    dsimp only [source, cur, pages, rows]
    exact .row rfl (.row rfl (.row rfl (.row rfl (.ended rfl))))
  have whole := ((stream_agrees source cur 2).1 [11, 12, 13, 14] _).mp
    (returns_iff.mpr ⟨_, _, drains', rfl⟩)
  exact ⟨serves, returns, breaks, yields, breaks.left rows serves, whole⟩

end TaskQueue.Cursor
