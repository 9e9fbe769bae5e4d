import TaskQueue.Proofs.Cursor.Parts
import TaskQueue.Proofs.Engine.Eligible
import TaskQueue.Proofs.Engine.Floor
import TaskQueue.Proofs.Engine.Lifecycle

/-!
# Tasks keep their places

The place of a queued task among the others depends on its priority, its date of creation and its
number. No order changes these, so a task that goes back into the queue stands where it stood
before.

Results:
1. `sublist_ids_iff`, `index_eq`: the order of a listing, and the whole index, are determined by
   ranks.
2. `Run.place`: a task that stays stored keeps its place in every run.
3. `requeueAll_complete`: all running tasks go back into the queue.
4. `Run.keeps_places`: whenever two tasks that stay stored are both queued, both are listed and in
   the same order, and a queue from which tasks were only drawn is what it was when all of them go
   back.
-/

namespace TaskQueue

/-! ## 1. Ranks and listings -/

namespace Contents

variable {c d : Contents} {id : TaskId} {task next : Task}

/-- Of two tasks of a listing one stands before the other if and only if its rank does. -/
theorem sublist_ids_iff (h : c.WellFormed) {listing : Listing} {a b : Task}
    (first : a ∈ c.list listing) (second : b ∈ c.list listing) :
    [a.id, b.id].Sublist ((c.list listing).map Task.id) ↔ (Rank.of a).Before (Rank.of b) := by
  have sorted := list_sorted h listing
  have own {task other : Task} (listed : task ∈ c.list listing) (known : other ∈ c.list listing)
      (same : task.id = other.id) : task = other := by
    have stored := ((mem_list h).mp listed).1
    rw [same, ((mem_list h).mp known).1] at stored
    exact (Option.some.inj stored).symm
  constructor
  · intro stands
    obtain ⟨pair, inside, ids⟩ := List.sublist_map_iff.mp stands
    obtain ⟨a', rest, rfl, sameA, others⟩ := List.map_eq_cons_iff.mp ids.symm
    obtain ⟨b', last, rfl, sameB, none⟩ := List.map_eq_cons_iff.mp others
    obtain rfl := own (inside.subset (by simp)) first sameA
    obtain rfl := own (inside.subset (by simp)) second sameB
    exact List.rel_of_pairwise_cons (sorted.sublist inside) (by simp)
  · intro before
    obtain ⟨front, back, split⟩ := List.append_of_mem first
    rw [split] at second sorted ⊢
    have behind : b ∈ back := by
      rcases List.mem_append.mp second with earlier | later
      · -- A task that stands in front has a smaller rank.
        have less := (List.pairwise_append.mp sorted).2.2 b earlier a List.mem_cons_self
        exact absurd rfl (less.trans before).ne
      · rcases List.mem_cons.mp later with rfl | behind
        · exact absurd rfl before.ne
        · exact behind
    have pair : [a, b].Sublist (front ++ a :: back) :=
      (List.Sublist.cons_cons a (List.singleton_sublist.mpr behind)).trans
        (List.sublist_append_right front _)
    exact pair.map Task.id

/-- The listing of a state shows a part of the index. -/
theorem ids_inState (h : c.WellFormed) (state : TaskState) :
    (c.list (.inState state none)).map Task.id =
      (c.index.filter fun rank => rank.bucket = state.bucket).map Rank.id := by
  have ranks := ranks_of_index h (c.index.filter fun rank => rank.bucket = state.bucket)
    fun rank member => (List.mem_filter.mp member).1
  have whole : c.list (.inState state none) =
      (c.index.filter fun rank => rank.bucket = state.bucket).filterMap
        fun rank => c.tasks.get? rank.id := by
    exact List.filter_eq_self.mpr fun _ _ => rfl
  conv => rhs; rw [← ranks]
  rw [whole, List.map_map]
  rfl

/-- Contents whose tasks have the same ranks have the same index. -/
theorem index_eq (h : c.WellFormed) (h' : d.WellFormed)
    (same : ∀ id, (d.tasks.get? id).map Rank.of = (c.tasks.get? id).map Rank.of) :
    d.index = c.index := by
  have member (rank : Rank) : rank ∈ d.index ↔ rank ∈ c.index := by
    rw [h.indexed, h'.indexed, ← Option.map_eq_some_iff, ← Option.map_eq_some_iff, same]
  have perm := (List.perm_ext_iff_of_nodup (h'.sorted.imp Rank.Before.ne)
    (h.sorted.imp Rank.Before.ne)).mpr member
  refine perm.eq_of_pairwise ?_ h'.sorted h.sorted
  intro a b _ _ less greater
  exact absurd rfl (less.trans greater).ne

end Contents

/-! ## 2. Keeping a place -/

/-- What the place of a task among those in its state depends on. -/
def Task.place (task : Task) : Int32 × UInt64 × Nat × TaskId :=
  (task.priority, task.created, task.order, task.id)

theorem Rank.of_eq {a b : Task} (place : a.place = b.place) (state : a.state = b.state) :
    Rank.of a = Rank.of b := by
  simp only [Task.place, Prod.mk.injEq] at place
  obtain ⟨priority, created, order, id⟩ := place
  rw [Rank.of, Rank.of, priority, created, order, id, state]

section

variable {c : Contents} {s s' : Store} {id : TaskId} {task next : Task}

/-- Whatever becomes of a stored task, it keeps its place. -/
theorem Contents.Becomes.place {x : Receipt} (becomes : c.Becomes x task next) :
    next.place = task.place := by
  cases becomes <;> rfl

theorem Store.CommitsOne.place (commits : s.CommitsOne s') (h : s.committed.WellFormed)
    (before : s.committed.tasks.get? id = some task)
    (after : s'.committed.tasks.get? id = some next) : next.place = task.place := by
  rcases commits with same | ⟨order, settings, bound, done⟩
  · rw [same, before] at after
    rw [Option.some.inj after]
  · rw [done] at after
    exact ((Order.exec_outcome h settings bound order).becomes h before after).place

end

namespace Floor

variable {f g : Floor} {allowed : Contents → Contents → Prop} {id : TaskId} {task : Task}

/-- A task that stays stored keeps its place. -/
theorem Run.place (sound : f.Sound) (run : Run allowed f g)
    (stays : ∀ c d, allowed c d → d.tasks.contains id = true)
    (before : f.committed.tasks.get? id = some task) :
    ∃ next, g.committed.tasks.get? id = some next ∧ next.place = task.place := by
  induction run with
  | nil => exact ⟨task, before, rfl⟩
  | snoc earlier step may ih =>
    obtain ⟨middle, stored, same⟩ := ih
    obtain ⟨next, stored'⟩ := Table.contains_eq_true_iff.mp (stays _ _ may)
    have here := earlier.sound sound
    have kept := (sound_step here step).2.place here.wellFormed stored stored'
    exact ⟨next, stored', kept.trans same⟩

end Floor

/-! ## 3. Drawing tasks and putting them back -/

namespace Operation

variable {c : Contents}

/-- All running tasks go back into the queue, or none if the pages of the cursors are empty, unless
there are so many that the offsets of the parts do not fit 64 bits. -/
theorem requeueAll_complete (h : c.WellFormed) (settings : CursorSettings) {bound : Nat}
    (enough : c.tasks.size < bound) :
    let tasks := (Cursor.new settings).owed (c.list (.inState .running none))
    (requeueAll settings bound).body.run.exec c =
        (.ok (tasks.length, ⟨0 < tasks.length, []⟩), tasks.foldl putBack c) ∨
      (requeueAll settings bound).body.run.exec c = (.error .overflow, c) ∧
        UInt64.size ≤ (c.list (.inState .running none)).length + 3 := by
  intro tasks
  have shows := Listing.source_shows (.inState .running none) c
  have few := Contents.length_list_le h (.inState .running none)
  rcases Cursor.split_complete shows settings (Nat.lt_of_le_of_lt few enough) with
    ⟨parts, split, read⟩ | ⟨overflow, large⟩
  · refine .inl ?_
    have known : ∀ task ∈ tasks, c.tasks.get? task.id = some task := by
      intro task member
      have listed : task ∈ c.list (.inState .running none) := by
        simp only [tasks, Cursor.owed_new] at member
        split at member
        · cases member
        · exact member
      exact ((Contents.mem_list h).mp listed).1
    have put := putBack_each tasks fun task member => ⟨task, known task member, rfl⟩
    refine (Action.exec_bind_ok (x := ExceptT.mk _) split).trans ?_
    refine (Action.exec_bind_ok (x := ExceptT.mk _) read).trans ?_
    exact Action.exec_bind_ok put
  · exact .inr ⟨Action.exec_bind_error overflow, large⟩

theorem requeueAll_order (h : c.WellFormed) (settings : CursorSettings) {bound : Nat}
    (enough : c.tasks.size < bound) :
    let tasks := (Cursor.new settings).owed (c.list (.inState .running none))
    (∃ after, Order.requeueAll.exec settings bound c =
      (.ok (.number tasks.length, after), tasks.foldl putBack c)) ∨
    Order.requeueAll.exec settings bound c = (.error .overflow, c) ∧
      UInt64.size ≤ c.tasks.size + 3 := by
  intro tasks
  rw [Order.exec, Order.operation, map_exec]
  rcases requeueAll_complete h settings enough with done | ⟨overflow, large⟩
  · rw [done]
    exact .inl ⟨_, rfl⟩
  · rw [overflow]
    exact .inr ⟨rfl, Nat.le_trans large (Nat.add_le_add_right (Contents.length_list_le h _) 3)⟩

end Operation

namespace Engine

variable {start e : Engine} {h : Ledger} {answer : Except Failure Order.Answer}

/-- What a cursor over the queue gives when it is read to the end. -/
def queuedIds (e : Engine) (cursor : CursorSettings) : Except Failure (List TaskId) :=
  (e.store.run none (Cursor.collect (Listing.inState .queued none).idSource e.rows
    (.new cursor))).1

/-- A task waits in the queue. -/
def IsQueued (e : Engine) (id : TaskId) : Prop :=
  ∃ task, e.task? id = some task ∧ task.state = .queued

theorem queuedIds_eq (formed : e.store.committed.WellFormed) (cursor : CursorSettings) :
    e.queuedIds cursor = .ok (if cursor.pageSize = 0 then []
      else (e.store.committed.list (.inState .queued none)).map Task.id) := by
  have shows := Listing.idSource_shows (.inState .queued none) e.store.committed
  have reads := Cursor.collect_reads (Listing.idSource_reads (.inState .queued none)) e.rows
    (Cursor.new cursor)
  have whole : (Cursor.new cursor : Cursor TaskId).range = none := rfl
  have few := Contents.length_list_le formed (.inState .queued none)
  rw [queuedIds, Store.run_reads reads]
  simp only [Store.seen, Cursor.collect_exec shows e.rows whole]
  split
  · next empty => simp [Cursor.remaining, Cursor.new, Cursor.fetchesNoMore, empty]
  · next page =>
    rw [Cursor.remaining_new page, List.take_of_length_le]
    rw [List.length_map]
    exact Nat.le_succ_of_le few

/-- The queue consists of the tasks that wait in it. -/
theorem mem_queuedIds (formed : e.store.committed.WellFormed) {cursor : CursorSettings}
    (page : cursor.pageSize ≠ 0) {ids : List TaskId} (lists : e.queuedIds cursor = .ok ids)
    (id : TaskId) : id ∈ ids ↔ e.IsQueued id := by
  rw [queuedIds_eq formed, if_neg page] at lists
  obtain rfl := Except.ok.inj lists
  rw [List.mem_map]
  constructor
  · rintro ⟨task, listed, rfl⟩
    exact ⟨task, (Contents.mem_inState formed .queued nofun).mp listed⟩
  · rintro ⟨task, stored, queued⟩
    obtain rfl : task.id = id := formed.keyed stored
    exact ⟨task, (Contents.mem_inState formed .queued nofun).mpr ⟨stored, queued⟩, rfl⟩

/-- Of two tasks in the queue one stands before the other if and only if its rank does. -/
theorem sublist_queuedIds_iff (formed : e.store.committed.WellFormed) {cursor : CursorSettings}
    (page : cursor.pageSize ≠ 0) {ids : List TaskId} (lists : e.queuedIds cursor = .ok ids)
    {i j : TaskId} {a b : Task} (first : e.task? i = some a) (queued : a.state = .queued)
    (second : e.task? j = some b) (queued' : b.state = .queued) :
    [i, j].Sublist ids ↔ (Rank.of a).Before (Rank.of b) := by
  rw [queuedIds_eq formed, if_neg page] at lists
  obtain rfl := Except.ok.inj lists
  obtain rfl : a.id = i := formed.keyed first
  obtain rfl : b.id = j := formed.keyed second
  have shown := (Contents.mem_inState formed .queued nofun).mpr ⟨first, queued⟩
  have shown' := (Contents.mem_inState formed .queued nofun).mpr ⟨second, queued'⟩
  exact Contents.sublist_ids_iff formed shown shown'

/-- Engines of the same index give the same queue. -/
theorem queuedIds_same (formed : start.store.committed.WellFormed)
    (formed' : e.store.committed.WellFormed)
    (same : e.store.committed.index = start.store.committed.index) (cursor : CursorSettings) :
    e.queuedIds cursor = start.queuedIds cursor := by
  rw [queuedIds_eq formed, queuedIds_eq formed', Contents.ids_inState formed,
    Contents.ids_inState formed', same]

/-- All that has happened is that some tasks were drawn from the queue. -/
structure Draws (start e : Engine) : Prop where
  settings : e.store.settings = start.store.settings
  free : e.store.free = true
  formed : e.store.committed.WellFormed
  empty : start.store.settings.cursor.pageSize = 0 → e.store.committed = start.store.committed
  records : ∀ id, e.task? id = start.task? id ∨ ∃ task now, start.task? id = some task ∧
    task.state = .queued ∧ e.task? id = some { task with started := some now, state := .running }

theorem draws_self (free : start.store.free = true)
    (formed : start.store.committed.WellFormed) : Draws start start :=
  ⟨rfl, free, formed, fun _ => rfl, fun _ => .inl rfl⟩

/-- One more attempt. -/
theorem Draws.acquire (draws : Draws start e) (now : UInt64) :
    Draws start (e.give (.acquire now)).2 := by
  obtain ⟨settings, free, formed, empty, records⟩ := draws
  obtain ⟨-, committed, opened, same⟩ :=
    Order.perform_order formed free e.store.settings.cursor e.rows (.acquire now)
  have outcome := Order.exec_outcome formed e.store.settings.cursor e.rows (.acquire now)
  rw [← committed] at outcome
  refine ⟨same.trans settings, ?_, (outcome.follows formed).wellFormed, fun noPage => ?_, ?_⟩
  · rw [Store.free, give, opened]
    rfl
  · rw [give, committed, Order.exec, Order.operation, Operation.map_exec,
      Operation.acquire_empty (by rw [settings]; exact noPage)]
    exact empty noPage
  · intro id
    rw [task?, give]
    generalize (e.perform _).2.store.committed = after at outcome ⊢
    generalize (Order.exec _ _ _ _).1 = result at outcome
    cases outcome with
    | idle => exact records id
    | @started _ task _ found queued _ =>
      rw [Contents.get?_put]
      split
      · next own =>
        obtain rfl : id = task.id := own
        rcases records task.id with same | ⟨before, then', -, -, drawn⟩
        · exact .inr ⟨task, now, same.symm.trans found, queued, rfl⟩
        · rw [task?, found] at drawn
          rw [Option.some.inj drawn] at queued
          cases queued
      · exact records id

theorem served_draws (free : start.store.free = true)
    (formed : start.store.committed.WellFormed) (served : Served start h e)
    (acquires : ∀ x ∈ h, ∃ now, x.order = .acquire now) : Draws start e := by
  induction served with
  | nil => exact draws_self free formed
  | @snoc h e order earlier ih =>
    obtain ⟨now, rfl⟩ := acquires _ (List.mem_append_right h (List.mem_singleton_self _))
    exact (ih fun x member => acquires x (List.mem_append_left _ member)).acquire now

/-- A task that was drawn and goes back has the rank that it had before. -/
theorem Draws.ranks (draws : Draws start e) (formed : start.store.committed.WellFormed)
    (idle : ∀ id task, start.task? id = some task → task.state ≠ .running) (id : TaskId) :
    let running := e.store.committed.list (.inState .running none)
    ((running.foldl Operation.putBack e.store.committed).tasks.get? id).map Rank.of =
      (start.store.committed.tasks.get? id).map Rank.of := by
  intro running
  have inRunning {task : Task} : task ∈ running ↔
      e.store.committed.tasks.get? task.id = some task ∧ task.state = .running :=
    Contents.mem_inState draws.formed .running nofun
  rcases draws.records id with same | ⟨task, now, before, queued, drawn⟩
  · -- A task that was not drawn does not run.
    rcases Contents.get?_foldl_putBack running id with ⟨kept, -⟩ | ⟨record, member, own, -⟩
    · rw [kept]
      exact congrArg (Option.map Rank.of) same
    · obtain ⟨stored, runs⟩ := inRunning.mp member
      rw [own] at stored
      exact absurd runs (idle id record (same.symm.trans stored))
  · rcases Contents.get?_foldl_putBack running id with
      ⟨-, others⟩ | ⟨record, member, own, next, rfl, put⟩
    · obtain rfl : task.id = id := formed.keyed before
      have runs : { task with started := some now, state := .running } ∈ running :=
        inRunning.mpr ⟨drawn, rfl⟩
      exact (others _ runs rfl).elim
    · obtain ⟨stored, -⟩ := inRunning.mp member
      rw [own] at stored
      obtain rfl := Option.some.inj (stored.symm.trans drawn)
      rw [put]
      refine (congrArg some ?_).trans (congrArg (Option.map Rank.of) before).symm
      exact Rank.of_eq rfl queued.symm

/-- All that was drawn goes back, and the index is what it was. -/
theorem Draws.requeueAll (draws : Draws start e) (formed : start.store.committed.WellFormed)
    (idle : ∀ id task, start.task? id = some task → task.state ≠ .running) :
    let after := e.give .requeueAll
    ((∃ n, after.1 = .ok (.number n)) ∧ after.2.store.committed.WellFormed ∧
      after.2.store.committed.index = start.store.committed.index) ∨
    after.1 = .error .overflow ∧ UInt64.size ≤ after.2.store.committed.tasks.size + 3 := by
  intro after
  obtain ⟨answer, committed, -, -⟩ :=
    Order.perform_order draws.formed draws.free e.store.settings.cursor e.rows .requeueAll
  have outcome := Order.exec_outcome draws.formed e.store.settings.cursor e.rows .requeueAll
  rw [← committed] at outcome
  have formed' : after.2.store.committed.WellFormed := (outcome.follows draws.formed).wellFormed
  rcases Operation.requeueAll_order draws.formed e.store.settings.cursor
    (Nat.lt_succ_self e.store.committed.tasks.size) with ⟨_, exec⟩ | ⟨exec, large⟩
  · rw [rows, exec] at answer committed
    refine .inl ⟨⟨_, answer⟩, formed', Contents.index_eq formed formed' fun id => ?_⟩
    change (Table.get? (e.perform _).2.store.committed.tasks id).map Rank.of = _
    rw [rows, committed, Cursor.owed_new]
    split
    · next noPage =>
      rw [draws.settings] at noPage
      exact congrArg (fun c : Contents => (c.tasks.get? id).map Rank.of) (draws.empty noPage)
    · exact draws.ranks formed idle id
  · rw [rows, exec] at answer committed
    refine .inr ⟨answer, ?_⟩
    change _ ≤ (e.perform _).2.store.committed.tasks.size + 3
    rw [rows, committed]
    exact large

end Engine

/-! ## 4. Runs -/

namespace Floor

variable {start f : Floor}

/-- After any run of any number of workers: whenever two tasks that stay stored from then on are
both queued, the queue lists both, if the pages of the cursor are not empty, and in the same order.
And if nothing runs and no section is open, then after any number of attempts to draw tasks and an
order to put all of them back the queue is what it was, unless there are so many tasks that their
number does not fit 64 bits. -/
theorem Run.keeps_places (formed : start.committed.WellFormed) (idle : start.workers = [])
    (run : Run (fun _ _ => True) start f) (cursor : CursorSettings) :
    (∀ g i j, Run (fun _ d => d.tasks.contains i = true ∧ d.tasks.contains j = true) f g →
      f.engine.IsQueued i → f.engine.IsQueued j → g.engine.IsQueued i → g.engine.IsQueued j →
      ∃ before after, f.engine.queuedIds cursor = .ok before ∧
        g.engine.queuedIds cursor = .ok after ∧
        (cursor.pageSize ≠ 0 → i ∈ before ∧ j ∈ before ∧ i ∈ after ∧ j ∈ after) ∧
        ([i, j].Sublist before ↔ [i, j].Sublist after)) ∧
    (f.engine.store.free = true →
      (∀ id task, f.engine.task? id = some task → task.state ≠ .running) →
      ∀ h answer e, (∀ x ∈ h, ∃ now, x.order = .acquire now) →
        Engine.Served f.engine (h ++ [⟨.requeueAll, answer⟩]) e →
        (∃ n, answer = .ok (.number n)) ∧ e.queuedIds cursor = f.engine.queuedIds cursor ∨
        answer = .error .overflow ∧ UInt64.size ≤ e.store.committed.tasks.size + 3) := by
  have sound := run.sound (sound_idle formed idle)
  refine ⟨?_, ?_⟩
  · rintro g i j onward ⟨a, stored, queued⟩ ⟨b, stored', queued'⟩ ⟨a', later, again⟩
      ⟨b', later', again'⟩
    have sound' := onward.sound sound
    obtain ⟨_, same, place⟩ := onward.place sound (fun _ _ both => both.1) stored
    obtain rfl := Option.some.inj (same.symm.trans later)
    obtain ⟨_, same', place'⟩ := onward.place sound (fun _ _ both => both.2) stored'
    obtain rfl := Option.some.inj (same'.symm.trans later')
    have rank := Rank.of_eq place (again.trans queued.symm)
    have rank' := Rank.of_eq place' (again'.trans queued'.symm)
    have lists := Engine.queuedIds_eq sound.wellFormed cursor
    have lists' := Engine.queuedIds_eq sound'.wellFormed cursor
    refine ⟨_, _, lists, lists', fun page => ?_, ?_⟩
    · have listed := Engine.mem_queuedIds sound.wellFormed page lists
      have listed' := Engine.mem_queuedIds sound'.wellFormed page lists'
      exact ⟨(listed i).mpr ⟨a, stored, queued⟩, (listed j).mpr ⟨b, stored', queued'⟩,
        (listed' i).mpr ⟨_, later, again⟩, (listed' j).mpr ⟨_, later', again'⟩⟩
    · by_cases page : cursor.pageSize = 0
      · rw [if_pos page, if_pos page]
      · have stands := Engine.sublist_queuedIds_iff sound.wellFormed page lists stored queued
          stored' queued'
        have stands' := Engine.sublist_queuedIds_iff sound'.wellFormed page lists' later again
          later' again'
        rw [rank, rank'] at stands'
        exact stands.trans stands'.symm
  · intro free idle h answer e acquires served
    obtain ⟨e', drawn, same, rfl⟩ := Engine.Served.last served
    have draws := Engine.served_draws free sound.wellFormed drawn acquires
    have given : answer = (e'.give .requeueAll).1 := congrArg Receipt.answer same
    rw [given]
    rcases draws.requeueAll sound.wellFormed idle with ⟨done, formed', index⟩ | overflow
    · exact .inl ⟨done, Engine.queuedIds_same sound.wellFormed formed' index cursor⟩
    · exact .inr overflow

/-- Of two queued tasks the first is taken and cancelled for another try: it stands first again. And
if instead both are drawn and go back, the queue is what it was. -/
theorem Run.keeps_places_retried :
    let task (n : Nat) : Task := Task.new (.ofNat n) 0 "job" default
    let queued := (Contents.empty.answer (.queue [task 1, task 2])).2
    let start : Floor := ⟨{ Engine.new .inMemory .standard with
      store := { Store.new .inMemory with committed := queued } }, []⟩
    let first := TaskId.ofNat 1
    let second := TaskId.ofNat 2
    let kept (_ d : Contents) := d.tasks.contains first = true ∧ d.tasks.contains second = true
    ∃ g h answer e, start.committed.WellFormed ∧ start.workers = [] ∧ Run kept start g ∧
      (g.engine.task? first).map Task.attempts = some 1 ∧
      (∃ before after, start.engine.queuedIds .standard = .ok before ∧
        g.engine.queuedIds .standard = .ok after ∧
        (first ∈ before ∧ second ∈ before ∧ first ∈ after ∧ second ∈ after) ∧
        ([first, second].Sublist before ↔ [first, second].Sublist after)) ∧
      Engine.Served start.engine (h ++ [⟨.requeueAll, answer⟩]) e ∧
      (∃ n, answer = .ok (.number n)) ∧
      e.queuedIds .standard = start.engine.queuedIds .standard := by
  intro task queued start first second kept
  have formed : start.committed.WellFormed :=
    (Contents.Reachable.empty.answer (q := .queue [task 1, task 2]) trivial).wellFormed
  have idle : Run kept start start := .nil
  have enters := idle.snoc (.join (@Worker.New.acquire _ none)) (by decide +kernel)
  have tries := enters.snoc (step_activity 0 0 rfl) (by decide +kernel)
  have takes := tries.snoc (step_activity 0 0 (by decide +kernel)) (by decide +kernel)
  have calls := takes.snoc (.join (@Worker.New.call _ (.cancel first true) .standard 0))
    (by decide +kernel)
  have waits := calls.snoc (step_activity 0 0 (by decide +kernel)) (by decide +kernel)
  have cancels := waits.snoc (step_activity 0 0 (by decide +kernel)) (by decide +kernel)
  obtain ⟨g, run, tried, again, again'⟩ : ∃ g, Run kept start g ∧
      (g.engine.task? first).map Task.attempts = some 1 ∧
      g.engine.IsQueued first ∧ g.engine.IsQueued second :=
    ⟨_, cancels, by decide +kernel, Option.map_eq_some_iff.mp (by decide +kernel),
      Option.map_eq_some_iff.mp (by decide +kernel)⟩
  obtain ⟨h, attempts, answer, e, served, few⟩ : ∃ h : Ledger,
      (∀ x ∈ h, ∃ now, x.order = .acquire now) ∧ ∃ answer e,
        Engine.Served start.engine (h ++ [⟨.requeueAll, answer⟩]) e ∧
        e.store.committed.tasks.size = 2 := by
    have drawn := ((@Engine.Served.nil start.engine).snoc (.acquire 0)).snoc (.acquire 0)
    refine ⟨_, ?_, _, _, drawn.snoc .requeueAll, by decide +kernel⟩
    exact List.forall_mem_cons.mpr ⟨⟨0, rfl⟩, List.forall_mem_singleton.mpr ⟨0, rfl⟩⟩
  obtain ⟨stands, goesBack⟩ := Run.keeps_places formed rfl .nil .standard
  obtain ⟨before, after, lists, lists', listed, order⟩ := stands g first second run
    (Option.map_eq_some_iff.mp (by decide +kernel))
    (Option.map_eq_some_iff.mp (by decide +kernel)) again again'
  have unstarted : ∀ id task, start.engine.task? id = some task → task.state ≠ .running := by
    intro id task stored runs
    have own := formed.keyed stored
    rw [← own] at stored
    have none : (start.committed.list (.inState .running none)).isEmpty = true := by
      decide +kernel
    have listed := (Contents.mem_inState formed .running nofun).mpr ⟨stored, runs⟩
    exact List.ne_nil_of_mem listed (List.isEmpty_iff.mp none)
  rcases goesBack rfl unstarted h answer e attempts served with ⟨done, same⟩ | ⟨-, many⟩
  · exact ⟨g, h, answer, e, formed, rfl, run, tried,
      ⟨before, after, lists, lists', listed (by decide), order⟩, served, done, same⟩
  · rw [few] at many
    exact absurd many (by decide)

end Floor

end TaskQueue
