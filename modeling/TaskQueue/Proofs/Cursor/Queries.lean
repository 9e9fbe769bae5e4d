import TaskQueue.Proofs.Cursor.Reading
import TaskQueue.Proofs.History

/-!
# The queries of a cursor

A cursor may be asked for its next row and for the number of its rows, it may be closed and split,
in any order, and any query may fail. Its notes say which queries it has made, with their answers,
and what it has given. They decide which page it may ask for next: the rows at hand, the place, the
range and what is known of the end are all in them.

Results:
1. `Source.noted`: a source that notes its queries.
2. `Due`, `Lazy`: the pages that the notes allow. `Spent`: when they allow none any more.
3. `Keeps`: what the notes say about a cursor. It is kept by each call.
4. `Life.stays_lazy`: every page that a cursor asks for, or one of the parts that it is split into,
   is one that the notes allow, and a page that they allow is asked for by the next call.
-/

namespace TaskQueue

variable {σ α : Type}

/-! ## 1. Notes -/

/-- What happens to a cursor. -/
inductive Cursor.Note (α : Type)
  /-- Its rows were counted. -/
  | counted (answer : Except Failure Nat)
  /-- A page was asked for. -/
  | fetched (offset limit : Nat) (answer : Except Failure (List α))
  /-- A call for the next row returned. -/
  | returned (answer : Except Failure (Option α))
  /-- It was closed. -/
  | closed

/-- The same source, which notes each query with its answer. -/
def Source.noted (source : Source (StateM σ) α) :
    Source (StateM (σ × List (Cursor.Note α))) α where
  count := do
    let now ← get
    let asked := source.count.run now.1
    set (asked.2, now.2 ++ [.counted asked.1])
    return asked.1
  fetch offset limit := do
    let now ← get
    let asked := (source.fetch offset limit).run now.1
    set (asked.2, now.2 ++ [.fetched offset limit asked.1])
    return asked.1

/-- A source that never answers with more rows than it was asked for. -/
def Source.Bounded (source : Source (StateM σ) α) : Prop :=
  ∀ offset limit s page, ((source.fetch offset limit).run s).1 = .ok page → page.length ≤ limit

/-- A query of a source that notes it has the answer that the source gives. -/
theorem Source.fetch_noted {source : Source (StateM σ) α} {offset limit : Nat}
    {s s' : σ × List (Cursor.Note α)} {answer : Except Failure (List α)}
    (asked : (source.noted.fetch offset limit).run s = (answer, s')) :
    ((source.fetch offset limit).run s.1).1 = answer ∧
      s'.2 = s.2 ++ [.fetched offset limit answer] := by
  cases asked
  exact ⟨rfl, rfl⟩

theorem Source.Serves.noted {source : Source (StateM σ) α} {rows : List α}
    (serves : source.Serves rows) : source.noted.Serves rows :=
  fun offset limit s page fetched => serves offset limit s.1 page fetched

namespace Cursor

variable {source : Source (StateM σ) α} {cur : Cursor α} {settings : CursorSettings}
  {range : Option (Nat × Nat)} {notes : List (Note α)}

namespace Note

/-- The rows that have come. -/
def page : Note α → List α
  | .fetched _ _ (.ok page) => page
  | _ => []

/-- The row that was given. -/
def row : Note α → List α
  | .returned (.ok (some row)) => [row]
  | _ => []

/-- Whether the number of rows has come. -/
def isCount : Note α → Bool
  | .counted (.ok _) => true
  | _ => false

/-- The offset behind the last page that has come. -/
def after (place : Nat) : Note α → Nat
  | .fetched offset _ (.ok page) => offset + page.length
  | _ => place

/-- No page has to be asked for any more: a page was short or it was the last one of the range, the
end was found, or the cursor was closed. -/
inductive Final (range : Option (Nat × Nat)) : Note α → Prop
  | short {offset limit : Nat} {page : List α} : page.length < limit →
      Final range (.fetched offset limit (.ok page))
  | filled {offset limit : Nat} {page : List α} {ends : Nat × Nat} : range = some ends →
      ends.2 ≤ offset + page.length → Final range (.fetched offset limit (.ok page))
  | ended : Final range (.returned (.ok none))
  | closed : Final range .closed

end Note

/-- A note that is of no query. -/
inductive Note.IsCall : Note α → Prop
  | returned (answer : Except Failure (Option α)) : IsCall (.returned answer)
  | closed : IsCall .closed

/-- A note with which no page comes. -/
inductive Note.Silent : Note α → Prop
  | call {note : Note α} : note.IsCall → Silent note
  | counted (answer : Except Failure Nat) : Silent (.counted answer)
  | refused (offset limit : Nat) (failure : Failure) :
      Silent (.fetched offset limit (.error failure))

theorem Note.IsCall.isCount {note : Note α} (call : note.IsCall) : note.isCount = false := by
  cases call <;> rfl

theorem Note.Silent.page {note : Note α} (silent : note.Silent) : note.page = [] := by
  rcases silent with ⟨_ | _⟩ | _ | _ <;> rfl

theorem Note.Silent.after {note : Note α} (silent : note.Silent) (place : Nat) :
    note.after place = place := by
  rcases silent with ⟨_ | _⟩ | _ | _ <;> rfl

theorem Note.final_fetched_iff {offset limit : Nat} {page : List α} :
    Final range (.fetched offset limit (.ok page)) ↔
      page.length < limit ∨ ∃ ends, range = some ends ∧ ends.2 ≤ offset + page.length := by
  constructor
  · rintro (short | ⟨bounded, filled⟩)
    · exact .inl short
    · exact .inr ⟨_, bounded, filled⟩
  · rintro (short | ⟨ends, bounded, filled⟩)
    · exact .short short
    · exact .filled bounded filled

/-! ## 2. Pages that may be asked for -/

/-- The offset at which the last page that has come ended, or the range begins. -/
def reached (range : Option (Nat × Nat)) (notes : List (Note α)) : Nat :=
  notes.foldl Note.after (beginning range)

/-- After what was noted a page may be asked for. -/
structure Due (settings : CursorSettings) (range : Option (Nat × Nat)) (notes : List (Note α))
    (offset limit : Nat) : Prop where
  /-- All rows that have come were given. -/
  empty : notes.flatMap Note.page = notes.flatMap Note.row
  rows : 1 ≤ limit
  page : limit ≤ settings.pageSize.toNat
  place : offset = reached range notes
  inside : ∀ ends, range = some ends → ends.1 ≤ offset ∧ offset + limit ≤ ends.2
  going : ∀ note ∈ notes, ¬ note.Final range

/-- Every page that was asked for was due then, and none was larger than it may be. -/
def Lazy (settings : CursorSettings) (range : Option (Nat × Nat)) (notes : List (Note α)) : Prop :=
  ∀ before offset limit answer later, notes = before ++ .fetched offset limit answer :: later →
    Due settings range before offset limit ∧
      ∀ page, answer = .ok page → page.length ≤ settings.pageSize.toNat

@[simp]
theorem reached_snoc (notes : List (Note α)) (note : Note α) :
    reached range (notes ++ [note]) = note.after (reached range notes) := by
  rw [reached, List.foldl_append]
  rfl

theorem lazy_nil : Lazy settings range ([] : List (Note α)) := by
  intro before offset limit answer later split
  simp at split

theorem Lazy.snoc (lazy : Lazy settings range notes) {note : Note α}
    (due : ∀ offset limit answer, note = .fetched offset limit answer →
      Due settings range notes offset limit ∧
        ∀ page, answer = .ok page → page.length ≤ settings.pageSize.toNat) :
    Lazy settings range (notes ++ [note]) := by
  intro before offset limit answer later split
  rcases snoc_eq_append_cons.mp split with ⟨rfl, asked, -⟩ | ⟨front, -, earlier⟩
  · exact due offset limit answer asked
  · exact lazy before offset limit answer front earlier

/-- Nothing can come any more, after what was noted or since the range is empty. -/
def Spent (range : Option (Nat × Nat)) (notes : List (Note α)) : Prop :=
  (∃ note ∈ notes, note.Final range) ∨ ∃ ends, range = some ends ∧ ends.2 ≤ ends.1

theorem spent_snoc {note : Note α} :
    Spent range (notes ++ [note]) ↔ Spent range notes ∨ note.Final range := by
  simp only [Spent, List.mem_append, List.mem_singleton, or_and_right, exists_or, exists_eq_left]
  exact or_right_comm

theorem Due.not_spent {offset limit : Nat} (due : Due settings range notes offset limit) :
    ¬ Spent range notes := by
  rintro (⟨note, member, final⟩ | ⟨ends, bounded, empty⟩)
  · exact due.going note member final
  · have inside := due.inside ends bounded
    have rows := due.rows
    omega

/-! ## 3. What the notes say about a cursor -/

/-- What was noted agrees with what a cursor knows. -/
structure Keeps (settings : CursorSettings) (range : Option (Nat × Nat)) (notes : List (Note α))
    (cur : Cursor α) : Prop where
  configured : cur.settings = settings
  bounded : cur.range = range
  place : cur.position = reached range notes
  behind : beginning range ≤ cur.position
  /-- The rows at hand are those that have come and were not given. -/
  held : cur.closed = false → notes.flatMap Note.page = notes.flatMap Note.row ++ cur.buffer
  full : cur.buffer.length ≤ settings.pageSize.toNat
  spent : (cur.exhausted || cur.closed) = true ↔ Spent range notes
  once : notes.countP Note.isCount ≤ cur.size.toList.length
  lazy : Lazy settings range notes

theorem keeps_fresh (settings : CursorSettings) (range : Option (Nat × Nat)) :
    Keeps settings range [] (fresh (α := α) settings range) := by
  cases range with
  | none =>
    exact ⟨rfl, rfl, rfl, Nat.le_refl _, fun _ => rfl, Nat.zero_le _, by simp [fresh, new, Spent],
      Nat.zero_le _, lazy_nil⟩
  | some ends =>
    exact ⟨rfl, rfl, rfl, Nat.le_refl _, fun _ => rfl, Nat.zero_le _,
      by simp [fresh, between, Spent], Nat.zero_le _, lazy_nil⟩

theorem Keeps.due (keeps : Keeps settings range notes cur) (fetches : cur.Fetches) :
    Due settings range notes cur.position cur.limit where
  empty := by rw [keeps.held fetches.opened, fetches.empty, List.append_nil]
  rows := Nat.pos_of_ne_zero fetches.some
  page := keeps.configured ▸ limit_le cur
  place := keeps.place
  inside ends bounded := by
    have behind := keeps.behind
    have some := fetches.some
    rw [bounded] at behind
    simp only [limit, keeps.bounded, bounded, beginning] at some behind ⊢
    omega
  going note member final := by
    have ended := keeps.spent.mpr (.inl ⟨note, member, final⟩)
    rw [fetches.going, fetches.opened] at ended
    cases ended

/-- A page that may be asked for is needed. -/
theorem Keeps.fetches (keeps : Keeps settings range notes cur) {offset limit : Nat}
    (due : Due settings range notes offset limit) : cur.Fetches := by
  have going := mt keeps.spent.mp due.not_spent
  rw [Bool.not_eq_true, Bool.or_eq_false_iff] at going
  refine ⟨?_, going.1, going.2, ?_⟩
  · have held := keeps.held going.2
    rw [due.empty] at held
    exact List.append_right_eq_self.mp held.symm
  · have rows := due.rows
    have page := due.page
    have inside := due.inside
    rw [due.place, ← keeps.place] at inside
    rw [Cursor.limit, keeps.bounded, keeps.configured]
    cases bounded : range with
    | none =>
      dsimp only
      omega
    | some ends =>
      have inside := inside ends bounded
      dsimp only
      omega

/-- When no page comes, the first row at hand may be given, the cursor may be closed, and the number
of rows may become known. -/
theorem Keeps.noted (keeps : Keeps settings range notes cur) {note : Note α} (silent : note.Silent)
    {size : Option Nat} {buffer : List α} {exhausted closed : Bool}
    (taken : closed = false → cur.closed = false ∧ cur.buffer = note.row ++ buffer)
    (fewer : buffer.length ≤ cur.buffer.length)
    (spent : (exhausted || closed) = true ↔
      (cur.exhausted || cur.closed) = true ∨ note.Final range)
    (once : (notes ++ [note]).countP Note.isCount ≤ size.toList.length)
    (due : ∀ offset limit answer, note = .fetched offset limit answer →
      Due settings range notes offset limit) :
    Keeps settings range (notes ++ [note]) { cur with size, buffer, exhausted, closed } where
  configured := keeps.configured
  bounded := keeps.bounded
  place := by rw [reached_snoc, silent.after, keeps.place]
  behind := keeps.behind
  held opened := by
    obtain ⟨opened, taken⟩ := taken opened
    rw [List.flatMap_append, List.flatMap_append, keeps.held opened, taken]
    simp [silent.page]
  full := Nat.le_trans fewer keeps.full
  spent := by rw [spent, spent_snoc, keeps.spent]
  once := once
  lazy := by
    refine keeps.lazy.snoc fun offset limit answer asked => ⟨due offset limit answer asked, ?_⟩
    rintro page rfl
    rw [asked] at silent
    rcases silent with ⟨⟨⟩⟩

/-- A call that makes no query. -/
theorem Keeps.call (keeps : Keeps settings range notes cur) {note : Note α} (call : note.IsCall)
    {buffer : List α} {exhausted closed : Bool}
    (taken : closed = false → cur.closed = false ∧ cur.buffer = note.row ++ buffer)
    (fewer : buffer.length ≤ cur.buffer.length)
    (spent : (exhausted || closed) = true ↔
      (cur.exhausted || cur.closed) = true ∨ note.Final range) :
    Keeps settings range (notes ++ [note]) { cur with buffer, exhausted, closed } := by
  refine keeps.noted (.call call) taken fewer spent ?_ fun _ _ _ asked => ?_
  · rw [List.countP_append, List.countP_singleton, call.isCount]
    exact keeps.once
  · rw [asked] at call
    cases call

theorem Keeps.refused (keeps : Keeps settings range notes cur) (fetches : cur.Fetches)
    (failure : Failure) :
    Keeps settings range (notes ++ [.fetched cur.position cur.limit (.error failure)]) cur := by
  refine keeps.noted (.refused _ _ failure) (fun opened => ⟨opened, rfl⟩) (Nat.le_refl _)
    (or_iff_left nofun).symm ?_ ?_
  · rw [List.countP_append]
    exact keeps.once
  · rintro _ _ _ ⟨⟩
    exact keeps.due fetches

theorem Keeps.counted (keeps : Keeps settings range notes cur) (unknown : cur.size = none)
    (answer : Except Failure Nat) :
    Keeps settings range (notes ++ [.counted answer]) { cur with size := answer.toOption } := by
  refine keeps.noted (.counted answer) (fun opened => ⟨opened, rfl⟩) (Nat.le_refl _)
    (or_iff_left nofun).symm ?_ nofun
  have once := keeps.once
  rw [unknown] at once
  rw [List.countP_append, Nat.le_zero.mp once, Nat.zero_add]
  cases answer <;> exact Nat.le_refl _

theorem Keeps.sized (keeps : Keeps settings range notes cur) (unknown : cur.size = none) (n : Nat) :
    Keeps settings range notes { cur with size := some n } :=
  { keeps with once := Nat.le_trans keeps.once (by rw [unknown]; exact Nat.zero_le _) }

theorem Keeps.receive (keeps : Keeps settings range notes cur) (fetches : cur.Fetches)
    {page : List α} (short : page.length ≤ cur.limit) :
    Keeps settings range (notes ++ [.fetched cur.position cur.limit (.ok page)])
      (cur.receive page) where
  configured := keeps.configured
  bounded := keeps.bounded
  place := by
    rw [reached_snoc]
    rfl
  behind := Nat.le_add_right_of_le keeps.behind
  held opened := by
    rw [List.flatMap_append, List.flatMap_append, keeps.held opened, fetches.empty]
    simp [Note.page, Note.row, Cursor.receive]
  full := Nat.le_trans short (keeps.configured ▸ limit_le cur)
  spent := by
    rw [spent_snoc, or_iff_right (keeps.due fetches).not_spent, Note.final_fetched_iff]
    cases bounded : range <;>
      simp [Cursor.receive, atEnd, keeps.bounded, bounded, fetches.going, fetches.opened]
  once := by
    rw [List.countP_append]
    exact keeps.once
  lazy := by
    refine keeps.lazy.snoc ?_
    rintro _ _ _ ⟨⟩
    refine ⟨keeps.due fetches, ?_⟩
    rintro _ ⟨⟩
    exact Nat.le_trans short (keeps.configured ▸ limit_le cur)

theorem Keeps.give (keeps : Keeps settings range notes cur) {row : α} {rest : List α}
    (buffer : cur.buffer = row :: rest) :
    Keeps settings range (notes ++ [.returned (.ok (some row))]) { cur with buffer := rest } := by
  refine keeps.call (.returned _) (fun opened => ⟨opened, buffer⟩) ?_ (or_iff_left nofun).symm
  rw [buffer]
  exact Nat.le_succ _

theorem Keeps.close (keeps : Keeps settings range notes cur) {note : Note α} (call : note.IsCall)
    (final : note.Final range) : Keeps settings range (notes ++ [note]) cur.close :=
  keeps.call call nofun (Nat.zero_le _) (iff_of_true rfl (.inr final))

theorem Keeps.next (bounded : source.Bounded) (keeps : Keeps settings range notes cur) {s s' : σ}
    {answer : Except Failure (Option α)} {after : Cursor α} {notes' : List (Note α)}
    (does : Does source.noted cur (s, notes) answer after (s', notes')) :
    Keeps settings range (notes' ++ [.returned answer]) after := by
  cases does with
  | row buffer => exact keeps.give buffer
  | ended _ _ _ =>
    exact keeps.call (.returned _) nofun (Nat.le_refl _)
      (iff_of_true (Bool.or_true _) (.inr .ended))
  | failed fetches failed =>
    obtain ⟨-, rfl⟩ := Source.fetch_noted failed
    exact (keeps.refused fetches _).call (.returned _) (fun opened => ⟨opened, rfl⟩) (Nat.le_refl _)
      (or_iff_left nofun).symm
  | page fetches fetched =>
    obtain ⟨answered, rfl⟩ := Source.fetch_noted fetched
    exact (keeps.receive fetches (bounded _ _ _ _ answered)).give rfl
  | nothing fetches fetched =>
    obtain ⟨answered, rfl⟩ := Source.fetch_noted fetched
    exact (keeps.receive fetches (bounded _ _ _ _ answered)).close (.returned _) .ended

theorem Keeps.measure (keeps : Keeps settings range notes cur) {s s' : σ}
    {answer : Except Failure Nat} {after : Cursor α} {notes' : List (Note α)}
    (measures : Measures source.noted cur (s, notes) answer after (s', notes')) :
    Keeps settings range notes' after := by
  cases measures with
  | known _ => exact keeps
  | closed unknown _ => exact keeps.sized unknown 0
  | asked unknown _ asked =>
    cases asked
    exact keeps.counted unknown _

/-- A cursor is divided only if it is one over all rows, and it knows their number then. -/
theorem Keeps.splits (keeps : Keeps settings range notes cur) {s s' : σ}
    {answer : Except Failure Bool} {after : Cursor α} {notes' : List (Note α)}
    (called : (cur.splits source.noted).run (s, notes) = ((answer, after), (s', notes'))) :
    Keeps settings range notes' after ∧
      (answer = .ok true → range = none ∧ ∃ n, after.size = some n) := by
  rw [Cursor.splits] at called
  split at called
  · cases called
    exact ⟨keeps, fun divided => by cases divided⟩
  · next whole =>
    have measures := measure_measures source.noted cur (s, notes)
    rw [StateT.run_bind] at called
    generalize (cur.measure source.noted).run (s, notes) = measured at measures called
    obtain ⟨⟨total, counted⟩, s₁, notes₁⟩ := measured
    cases called
    refine ⟨keeps.measure measures, fun enough => ⟨?_, ?_⟩⟩
    · rw [Bool.or_eq_true, not_or, Option.not_isSome_iff_eq_none, keeps.bounded] at whole
      exact whole.1
    · cases total with
      | error failure => cases enough
      | ok n => exact ⟨n, measures.size⟩

/-- A cursor that is split makes no query but for the number of its rows. Its parts are new cursors,
or it is the only one. -/
theorem Keeps.split (keeps : Keeps settings range notes cur) {s s' : σ}
    {answer : Except Failure (List (Cursor α))} {notes' : List (Note α)}
    (called : (cur.split source.noted).run (s, notes) = (answer, (s', notes'))) :
    ∃ rest, Keeps settings range notes' rest ∧ ∀ parts, answer = .ok parts →
      parts = [rest] ∨
        range = none ∧ ∀ part ∈ parts, ∃ first last, part = between settings first last := by
  rcases asked : (cur.splits source.noted).run (s, notes) with ⟨⟨enough, rest⟩, s₁, notes₁⟩
  obtain ⟨kept, known⟩ := keeps.splits asked
  rw [Cursor.split, StateT.run_bind, asked] at called
  cases enough with
  | error failure =>
    cases called
    exact ⟨rest, kept, fun _ divided => by cases divided⟩
  | ok enough =>
    cases enough with
    | false =>
      cases called
      refine ⟨rest, kept, ?_⟩
      rintro _ ⟨⟩
      exact .inl rfl
    | true =>
      obtain ⟨whole, n, size⟩ := known rfl
      change (rest.measure source.noted >>= _).run (s₁, notes₁) = _ at called
      rw [Cursor.measure, size] at called
      cases called
      refine ⟨rest, kept, fun parts divided => .inr ⟨whole, ?_⟩⟩
      cases ranged : ranges rest.settings n with
      | error failure =>
        rw [ranged] at divided
        cases divided
      | ok rs =>
        rw [ranged] at divided
        cases divided
        intro part member
        obtain ⟨r, -, rfl⟩ := List.mem_map.mp member
        exact ⟨r.1, r.2, by rw [kept.configured]⟩

/-- A call for the next row asks for a page if it needs one, and for nothing otherwise. -/
theorem next_asks (source : Source (StateM σ) α) (cur : Cursor α) (now : σ × List (Note α)) :
    let asked := ((cur.next source.noted).run now).2
    asked = now ∧ ¬ cur.Fetches ∨
      cur.Fetches ∧ ∃ answer, asked.2 = now.2 ++ [.fetched cur.position cur.limit answer] := by
  intro asked
  have does := next_does source.noted cur now
  change Does _ _ _ _ _ asked at does
  generalize asked = after at does ⊢
  generalize ((cur.next source.noted).run now).1.1 = answer at does
  generalize ((cur.next source.noted).run now).1.2 = rest at does
  cases does with
  | row buffer =>
    refine .inl ⟨rfl, fun fetches => ?_⟩
    rw [fetches.empty] at buffer
    cases buffer
  | ended _ known _ => exact .inl ⟨rfl, known⟩
  | failed fetches failed => exact .inr ⟨fetches, _, (Source.fetch_noted failed).2⟩
  | page fetches fetched => exact .inr ⟨fetches, _, (Source.fetch_noted fetched).2⟩
  | nothing fetches fetched => exact .inr ⟨fetches, _, (Source.fetch_noted fetched).2⟩

/-! ## 4. Lives -/

/-- What may happen to a cursor over all rows and to the parts that it is split into, each with its
own range and notes. Nothing is left of a cursor that was split. The source is in any state at each
call. -/
inductive Life (source : Source (StateM σ) α) (settings : CursorSettings) :
    Option (Nat × Nat) → List (Note α) → Option (Cursor α) → Prop
  | new : Life source settings none [] (some (.new settings))
  | next {range : Option (Nat × Nat)} {notes notes' : List (Note α)} {cur after : Cursor α}
      {s s' : σ} {answer : Except Failure (Option α)} :
      Life source settings range notes (some cur) →
      (cur.next source.noted).run (s, notes) = ((answer, after), (s', notes')) →
      Life source settings range (notes' ++ [.returned answer]) (some after)
  | measure {range : Option (Nat × Nat)} {notes notes' : List (Note α)} {cur after : Cursor α}
      {s s' : σ} {answer : Except Failure Nat} :
      Life source settings range notes (some cur) →
      (cur.measure source.noted).run (s, notes) = ((answer, after), (s', notes')) →
      Life source settings range notes' (some after)
  | splits {range : Option (Nat × Nat)} {notes notes' : List (Note α)} {cur after : Cursor α}
      {s s' : σ} {answer : Except Failure Bool} :
      Life source settings range notes (some cur) →
      (cur.splits source.noted).run (s, notes) = ((answer, after), (s', notes')) →
      Life source settings range notes' (some after)
  | close {range : Option (Nat × Nat)} {notes : List (Note α)} {cur : Cursor α} :
      Life source settings range notes (some cur) →
      Life source settings range (notes ++ [.closed]) (some cur.close)
  | split {range : Option (Nat × Nat)} {notes notes' : List (Note α)} {cur : Cursor α}
      {s s' : σ} {answer : Except Failure (List (Cursor α))} :
      Life source settings range notes (some cur) →
      (cur.split source.noted).run (s, notes) = (answer, (s', notes')) →
      Life source settings range notes' none
  /-- A cursor that is not divided comes back as its only part. -/
  | alone {range : Option (Nat × Nat)} {notes notes' : List (Note α)} {cur after : Cursor α}
      {s s' : σ} : Life source settings range notes (some cur) →
      (cur.split source.noted).run (s, notes) = (.ok [after], (s', notes')) → after.range = range →
      Life source settings range notes' (some after)
  | part {range : Option (Nat × Nat)} {notes notes' : List (Note α)} {cur part : Cursor α}
      {s s' : σ} {parts : List (Cursor α)} : Life source settings range notes (some cur) →
      (cur.split source.noted).run (s, notes) = (.ok parts, (s', notes')) → part ∈ parts →
      part.range ≠ range → Life source settings part.range [] (some part)

/-- What was noted agrees with what the cursor knows, or knew when it was split. -/
def Kept (settings : CursorSettings) (range : Option (Nat × Nat)) (notes : List (Note α)) :
    Option (Cursor α) → Prop
  | some cur => Keeps settings range notes cur
  | none => ∃ rest, Keeps settings range notes rest

theorem Life.kept (bounded : source.Bounded) {cur : Option (Cursor α)}
    (life : Life source settings range notes cur) : Kept settings range notes cur := by
  induction life with
  | new => exact keeps_fresh settings none
  | next _ called ih => exact ih.next bounded (does_of_next called)
  | @measure _ notes _ cur _ s _ _ _ called ih =>
    have measures := measure_measures source.noted cur (s, notes)
    rw [called] at measures
    exact ih.measure measures
  | splits _ called ih => exact (ih.splits called).1
  | close _ ih => exact ih.close .closed .closed
  | split _ called ih =>
    obtain ⟨rest, kept, -⟩ := ih.split called
    exact ⟨rest, kept⟩
  | @alone _ _ _ _ after _ _ _ called same ih =>
    obtain ⟨rest, kept, parts⟩ := ih.split called
    rcases parts _ rfl with alone | ⟨rfl, divided⟩
    · obtain rfl := List.singleton_inj.mp alone
      exact kept
    · obtain ⟨first, last, rfl⟩ := divided after (List.mem_singleton.mpr rfl)
      cases same
  | @part _ _ _ _ part _ _ _ _ called member other ih =>
    obtain ⟨rest, kept, parts⟩ := ih.split called
    rcases parts _ rfl with rfl | ⟨-, divided⟩
    · obtain rfl := List.mem_singleton.mp member
      exact absurd kept.bounded other
    · obtain ⟨first, last, rfl⟩ := divided part member
      exact keeps_fresh settings (some (first, last))

/-- A cursor over all rows is lazy, and so is each of the parts that it is split into, whatever is
called and whichever queries fail. It asks for a page only when all rows that have come were given,
for one row at least and for no more than a page, from the offset on at which the last page ended,
and within its range. It asks for none after a short page, after the end or after it was closed. It
holds no more than a page, and the number of its rows comes at most once. A call for the next row
makes no query as long as the cursor holds a row, and asks for a page just if one is due. -/
theorem Life.stays_lazy (bounded : source.Bounded) {cur : Option (Cursor α)}
    (life : Life source settings range notes cur) :
    Lazy settings range notes ∧ notes.countP Note.isCount ≤ 1 ∧
      ∀ live, cur = some live → live.buffer.length ≤ settings.pageSize.toNat ∧
        ∀ s, let asked := ((live.next source.noted).run (s, notes)).2
          (live.buffer ≠ [] → asked = (s, notes)) ∧
          (asked = (s, notes) ∧ (∀ offset limit, ¬ Due settings range notes offset limit) ∨
            ∃ offset limit answer, asked.2 = notes ++ [.fetched offset limit answer] ∧
              Due settings range notes offset limit) := by
  have kept := life.kept bounded
  have most {rest : Cursor α} (keeps : Keeps settings range notes rest) :
      Lazy settings range notes ∧ notes.countP Note.isCount ≤ 1 := by
    refine ⟨keeps.lazy, Nat.le_trans keeps.once ?_⟩
    cases rest.size <;> simp
  cases cur with
  | none =>
    obtain ⟨rest, keeps⟩ := kept
    exact ⟨(most keeps).1, (most keeps).2, nofun⟩
  | some live =>
    refine ⟨(most kept).1, (most kept).2, ?_⟩
    rintro _ ⟨⟩
    refine ⟨Keeps.full kept, fun s => ?_⟩
    rcases next_asks source live (s, notes) with ⟨asked, known⟩ | ⟨fetches, answer, asked⟩
    · exact ⟨fun _ => asked, .inl ⟨asked, fun _ _ due => known (Keeps.fetches kept due)⟩⟩
    · exact ⟨fun held => absurd fetches.empty held,
        .inr ⟨_, _, answer, asked, Keeps.due kept fetches⟩⟩

/-- Five rows are split, and the first part is read to its end. Its first fetch fails, and its last
page is the one row that its range has left. -/
theorem Life.stays_lazy_part :
    let rows := [10, 11, 12, 13, 14]
    let source : Source (StateM Bool) Nat :=
      ⟨fun fails => (.ok 5, fails), fun offset limit fails =>
        (if fails then .error .closed else .ok ((rows.drop offset).take limit), fails)⟩
    let settings : CursorSettings := ⟨2, 2, 10⟩
    let notes : List (Note Nat) :=
      [.fetched 0 2 (.error .closed), .returned (.error .closed), .fetched 0 2 (.ok [10, 11]),
        .returned (.ok (some 10)), .returned (.ok (some 11)), .fetched 2 1 (.ok [12]),
        .returned (.ok (some 12)), .returned (.ok none)]
    ∃ live, source.Bounded ∧ Life source settings (some (0, 3)) notes (some live) ∧
      Lazy settings (some (0, 3)) notes ∧ Due settings (some (0, 3)) (notes.take 5) 2 1 ∧
      Life source settings none [.counted (.ok 5)] none := by
  intro rows source settings notes
  have bounded : source.Bounded := by
    intro offset limit fails page fetched
    cases fails with
    | true => cases fetched
    | false =>
      cases fetched
      exact List.length_take_le _ _
  let start : Cursor Nat := between settings 0 3
  let half : Cursor Nat := { start with position := 2, buffer := [11] }
  have divided : ((Cursor.new settings).split source.noted).run (false, []) =
      (.ok [start, between settings 3 5], (false, [.counted (.ok 5)])) := by
    dsimp only [start, source, settings]
    rfl
  have fresh : Life source settings (some (0, 3)) [] (some start) :=
    Life.part .new divided List.mem_cons_self nofun
  have refused : Life source settings (some (0, 3)) (notes.take 2) (some start) :=
    fresh.next (s := true) rfl
  have paged : Life source settings (some (0, 3)) (notes.take 4) (some half) :=
    refused.next (s := false) rfl
  have popped : Life source settings (some (0, 3)) (notes.take 5)
      (some { half with buffer := [] }) :=
    paged.next (s := true) rfl
  have last : Life source settings (some (0, 3)) (notes.take 7)
      (some { half with position := 3, buffer := [], exhausted := true }) :=
    popped.next (s := false) rfl
  have ended : Life source settings (some (0, 3)) notes
      (some { half with position := 3, buffer := [], exhausted := true, closed := true }) :=
    last.next (s := true) rfl
  obtain ⟨lazy, -⟩ := ended.stays_lazy bounded
  exact ⟨_, bounded, ended, lazy, (lazy _ _ _ _ _ rfl).1, .split .new divided⟩

end Cursor

end TaskQueue
