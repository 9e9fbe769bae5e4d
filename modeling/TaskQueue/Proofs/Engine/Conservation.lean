import TaskQueue.Proofs.Engine.Order
import TaskQueue.Proofs.History

/-!
# No task is lost or doubled

Orders are given to an engine one after the other, in any sequence. The history of orders and
answers says which tasks have to be stored: those of the batches that were queued, up to the first
order that removes them.

Results:
1. `Outcome.has_iff`: what an order leaves is what its answer says.
2. `tracks_served`: the stored tasks are those that the history keeps.
3. `served_conserves`: so are the answers to further removals, and the rows of the three listings.
-/

namespace TaskQueue

/-- An order with its answer. -/
structure Receipt where
  order : Order
  answer : Except Failure Order.Answer

namespace Receipt

/-- An order that queued a batch with a task of this identifier and correlation key. -/
inductive Submits (id : TaskId) (reference : Option String) : Receipt → Prop
  | queued {batch : List Task} {answer : Order.Answer} {task : Task} : task ∈ batch →
      task.id = id → task.reference = reference →
      Submits id reference ⟨.submitAll batch, .ok answer⟩

/-- An order that removed the task of this identifier and correlation key, if it was there. -/
inductive Removes (id : TaskId) (reference : Option String) : Receipt → Prop
  | acknowledged {now : UInt64} :
      Removes id reference ⟨.acknowledge now id, .ok (.flag true)⟩
  | cancelled : Removes id reference ⟨.cancel id false, .ok (.flag true)⟩
  | byReference {key : String} {answer : Order.Answer} : reference = some key →
      Removes id reference ⟨.cancelByReference key, .ok answer⟩

variable {id other : TaskId} {reference : Option String}

theorem submits_batch {batch : List Task} {answer : Order.Answer} :
    Submits id reference ⟨.submitAll batch, .ok answer⟩ ↔
      ∃ task ∈ batch, task.id = id ∧ task.reference = reference := by
  constructor
  · rintro ⟨member, own, key⟩
    exact ⟨_, member, own, key⟩
  · rintro ⟨task, member, own, key⟩
    exact .queued member own key

theorem removes_acknowledge {now : UInt64} :
    Removes id reference ⟨.acknowledge now other, .ok (.flag true)⟩ ↔ id = other := by
  constructor
  · rintro ⟨⟩
    rfl
  · rintro rfl
    exact .acknowledged

theorem removes_cancel :
    Removes id reference ⟨.cancel other false, .ok (.flag true)⟩ ↔ id = other := by
  constructor
  · rintro ⟨⟩
    rfl
  · rintro rfl
    exact .cancelled

theorem removes_byReference {key : String} {answer : Order.Answer} :
    Removes id reference ⟨.cancelByReference key, .ok answer⟩ ↔ reference = some key := by
  constructor
  · rintro ⟨⟩
    assumption
  · exact .byReference

end Receipt

/-- What was ordered so far, the latest last. -/
abbrev Ledger := List Receipt

namespace Ledger

/-- A task was submitted, and neither submitted again nor removed since. -/
def Keeps (h : Ledger) (id : TaskId) (reference : Option String) : Prop :=
  Since h (·.Submits id reference) fun x => ¬ x.Removes id reference ∧ ∀ other, ¬ x.Submits id other

theorem keeps_snoc {h : Ledger} {x : Receipt} {id : TaskId} {reference : Option String} :
    Keeps (h ++ [x]) id reference ↔ x.Submits id reference ∨
      h.Keeps id reference ∧ ¬ x.Removes id reference ∧ ∀ other, ¬ x.Submits id other :=
  since_snoc

/-- What is not kept stays so until it is submitted. -/
theorem not_keeps_append {h later : Ledger} {id : TaskId} (gone : ∀ other, ¬ h.Keeps id other)
    (since : ∀ x ∈ later, ∀ other, ¬ x.Submits id other) :
    ∀ other, ¬ Keeps (h ++ later) id other := by
  induction later generalizing h with
  | nil => rwa [List.append_nil]
  | cons x rest ih =>
    obtain ⟨first, others⟩ := List.forall_mem_cons.mp since
    rw [List.append_cons]
    refine ih (fun other kept => ?_) others
    rcases keeps_snoc.mp kept with submits | ⟨before, -⟩
    · exact first other submits
    · exact gone other before

end Ledger

namespace Contents

variable {c d : Contents} {id : TaskId} {reference : Option String}

/-! ## 1. What an order leaves -/

/-- A task of this identifier and correlation key is stored. -/
def Has (c : Contents) (id : TaskId) (reference : Option String) : Prop :=
  ∃ task, c.tasks.get? id = some task ∧ task.reference = reference

theorem has_take (c : Contents) (removed : TaskId) :
    (c.take removed).Has id reference ↔ c.Has id reference ∧ id ≠ removed := by
  simp only [Has, get?_take]
  by_cases same : id = removed
  · simp [same]
  · simp [same]

theorem has_put (c : Contents) (task : Task) :
    (c.put task).Has id reference ↔
      task.id = id ∧ task.reference = reference ∨ c.Has id reference ∧ task.id ≠ id := by
  simp only [Has, get?_put]
  by_cases same : id = task.id
  · simp [same]
  · simp [same, Ne.symm same]

/-- A record that takes the place of one with the same correlation key makes no difference. -/
theorem has_put_same {old task : Task} (found : c.tasks.get? task.id = some old)
    (same : task.reference = old.reference) :
    (c.put task).Has id reference ↔ c.Has id reference := by
  rw [has_put]
  constructor
  · rintro (⟨rfl, rfl⟩ | ⟨stored, -⟩)
    · exact ⟨old, found, same.symm⟩
    · exact stored
  · intro stored
    by_cases own : task.id = id
    · obtain ⟨other, known, rfl⟩ := stored
      rw [← own, found] at known
      cases known
      exact .inl ⟨own, same⟩
    · exact .inr ⟨stored, own⟩

/-- Tasks are put in one after the other, each in a form of its own. -/
theorem get?_foldl_put {change : Contents → Task → Contents} {form : Task → Task → Prop}
    (each : ∀ c task, ∃ next, form task next ∧ ∀ id,
      (change c task).tasks.get? id = if id = task.id then some next else c.tasks.get? id)
    (tasks : List Task) (id : TaskId) :
    ((tasks.foldl change c).tasks.get? id = c.tasks.get? id ∧ ∀ task ∈ tasks, task.id ≠ id) ∨
      ∃ task ∈ tasks, task.id = id ∧ ∃ next, form task next ∧
        (tasks.foldl change c).tasks.get? id = some next := by
  induction tasks generalizing c with
  | nil => exact .inl ⟨rfl, nofun⟩
  | cons first rest ih =>
    rw [List.foldl_cons]
    rcases @ih (change c first) with ⟨same, others⟩ | ⟨task, member, own, next, formed, found⟩
    · obtain ⟨next, formed, lookup⟩ := each c first
      rw [same, lookup]
      by_cases own : id = first.id
      · rw [if_pos own]
        exact .inr ⟨first, List.mem_cons_self, own.symm, next, formed, rfl⟩
      · rw [if_neg own]
        exact .inl ⟨rfl, List.forall_mem_cons.mpr ⟨Ne.symm own, others⟩⟩
    · exact .inr ⟨task, List.mem_cons_of_mem first member, own, next, formed, found⟩

/-- A task of a batch is stored queued, with a number and as it is otherwise. -/
theorem get?_foldl_append (batch : List Task) (id : TaskId) :
    ((batch.foldl append c).tasks.get? id = c.tasks.get? id ∧ ∀ task ∈ batch, task.id ≠ id) ∨
      ∃ task ∈ batch, task.id = id ∧ ∃ next,
        (∃ order, next = { task with order, state := .queued }) ∧
        (batch.foldl append c).tasks.get? id = some next := by
  refine get?_foldl_put (fun c task => ?_) batch id
  exact ⟨_, ⟨c.nextOrder, rfl⟩, get?_put c { task with order := c.nextOrder, state := .queued }⟩

theorem get?_foldl_putBack (tasks : List Task) (id : TaskId) :
    ((tasks.foldl Operation.putBack c).tasks.get? id = c.tasks.get? id ∧
        ∀ task ∈ tasks, task.id ≠ id) ∨
      ∃ task ∈ tasks, task.id = id ∧ ∃ next,
        next = { task with started := none, state := .queued } ∧
        (tasks.foldl Operation.putBack c).tasks.get? id = some next := by
  refine get?_foldl_put (fun c task => ?_) tasks id
  exact ⟨_, rfl, get?_put c { task with started := none, state := .queued }⟩

/-- A batch without repetitions adds its tasks. -/
theorem has_foldl_append {batch : List Task} (distinct : (batch.map Task.id).Nodup) :
    (batch.foldl append c).Has id reference ↔
      (∃ task ∈ batch, task.id = id ∧ task.reference = reference) ∨
        c.Has id reference ∧ ∀ task ∈ batch, task.id ≠ id := by
  unfold Has
  rcases @get?_foldl_append c batch id with
    ⟨same, others⟩ | ⟨task, member, own, next, ⟨_, rfl⟩, found⟩
  · rw [same]
    constructor
    · exact fun stored => .inr ⟨stored, others⟩
    · rintro (⟨task, member, own, -⟩ | ⟨stored, -⟩)
      · exact absurd own (others task member)
      · exact stored
  · rw [found]
    constructor
    · rintro ⟨_, ⟨⟩, key⟩
      exact .inl ⟨task, member, own, key⟩
    · rintro (⟨other, member', own', key⟩ | ⟨-, others⟩)
      · obtain rfl := List.inj_on_of_nodup_map distinct member' member (own'.trans own.symm)
        exact ⟨_, rfl, key⟩
      · exact absurd own (others task member)

/-- A batch in which no duplicate is found repeats no identifier. -/
theorem distinct_of_duplicate {seen : List TaskId} {batch : List Task}
    (none : c.duplicate? seen batch = none) :
    (batch.map Task.id).Nodup ∧ ∀ task ∈ batch, task.id ∉ seen := by
  induction batch generalizing seen with
  | nil => exact ⟨.nil, nofun⟩
  | cons first rest ih =>
    rw [duplicate?] at none
    split at none
    · cases none
    · next new =>
      obtain ⟨distinct, unseen⟩ := ih none
      simp only [Bool.or_eq_true, decide_eq_true_eq, not_or] at new
      refine ⟨?_, ?_⟩
      · rw [List.map_cons, List.nodup_cons]
        refine ⟨fun again => ?_, distinct⟩
        obtain ⟨task, member, same⟩ := List.mem_map.mp again
        exact unseen task member (same ▸ List.mem_cons_self)
      · refine List.forall_mem_cons.mpr ⟨new.2, fun task member known => ?_⟩
        exact unseen task member (List.mem_cons_of_mem first.id known)

theorem distinct_of_queue {batch : List Task} (queued : c.queue batch = .ok d) :
    (batch.map Task.id).Nodup := by
  unfold queue at queued
  split at queued
  · cases queued
  · next none => exact (distinct_of_duplicate none).1

theorem has_foldl_take (ids : List TaskId) :
    (ids.foldl take c).Has id reference ↔ c.Has id reference ∧ id ∉ ids := by
  rw [Has, get?_foldl_take]
  by_cases member : id ∈ ids
  · simp [member]
  · simp [member, Has]

/-- Without the tasks of a correlation key, those of other keys are left. -/
theorem has_removeByReference (h : c.WellFormed) (key : String) :
    (c.removeByReference key).2.Has id reference ↔ c.Has id reference ∧ reference ≠ some key := by
  rw [removeByReference, has_foldl_take]
  refine and_congr_right fun ⟨task, found, own⟩ => not_congr ?_
  rw [List.mem_map]
  constructor
  · rintro ⟨other, member, rfl⟩
    obtain ⟨known, key⟩ := List.mem_filter.mp member
    obtain ⟨id, stored⟩ := Table.mem_values_iff.mp known
    rw [h.keyed stored, stored] at found
    cases found
    rw [← own]
    exact of_decide_eq_true key
  · rintro rfl
    refine ⟨task, List.mem_filter.mpr ⟨Table.mem_values_iff.mpr ⟨id, found⟩, ?_⟩, h.keyed found⟩
    exact decide_eq_true own

/-- Running tasks that go back into the queue make no difference. -/
theorem has_foldl_putBack {tasks : List Task}
    (stored : ∀ task ∈ tasks, c.tasks.get? task.id = some task) :
    (tasks.foldl Operation.putBack c).Has id reference ↔ c.Has id reference := by
  unfold Has
  rcases @get?_foldl_putBack c tasks id with ⟨same, -⟩ | ⟨task, member, own, next, rfl, found⟩
  · rw [same]
  · rw [found, ← own, stored task member]
    simp

theorem size_foldl_take {ids : List TaskId} (distinct : ids.Nodup)
    (stored : ∀ id ∈ ids, ∃ task, c.tasks.get? id = some task) :
    (ids.foldl take c).tasks.size + ids.length = c.tasks.size := by
  induction ids generalizing c with
  | nil => rfl
  | cons first rest ih =>
    obtain ⟨⟨task, found⟩, others⟩ := List.forall_mem_cons.mp stored
    obtain ⟨new, distinct⟩ := List.nodup_cons.mp distinct
    have taken : (c.take first).tasks = c.tasks.erase first := by simp only [take, found]
    have left : ∀ id ∈ rest, ∃ task, (c.take first).tasks.get? id = some task := by
      intro id member
      obtain ⟨task, known⟩ := others id member
      refine ⟨task, ?_⟩
      rw [get?_take, if_neg, known]
      rintro rfl
      exact new member
    rw [List.foldl_cons, List.length_cons, ← Nat.add_assoc, ih distinct left, taken,
      Table.size_erase found]

theorem size_removeByReference (h : c.WellFormed) (key : String) :
    (c.removeByReference key).2.tasks.size + (c.removeByReference key).1 = c.tasks.size := by
  refine size_foldl_take ?_ ?_
  · have distinct : (c.tasks.values.map Task.id).Nodup := by
      rw [values_ids h]
      exact c.tasks.distinct
    exact distinct.sublist (List.filter_sublist.map Task.id)
  · intro id member
    obtain ⟨task, known, rfl⟩ := List.mem_map.mp member
    obtain ⟨id, found⟩ := Table.mem_values_iff.mp (List.mem_filter.mp known).1
    rw [h.keyed found]
    exact ⟨task, found⟩

end Contents

namespace Order

variable {c d : Contents} {order : Order} {result : Except Failure (Order.Answer × Aftermath)}
  {id : TaskId} {reference : Option String}

/-- An order that neither queues nor removes a task leaves the same identifiers. -/
theorem has_iff_of_neutral {x : Receipt} (neutral : ∀ other, ¬ x.Submits id other)
    (keeps : ¬ x.Removes id reference) (same : d.Has id reference ↔ c.Has id reference) :
    d.Has id reference ↔ x.Submits id reference ∨
      c.Has id reference ∧ ¬ x.Removes id reference ∧ ∀ other, ¬ x.Submits id other := by
  rw [same]
  exact ⟨fun stored => .inr ⟨stored, keeps, neutral⟩,
    fun either => either.elim (fun submits => absurd submits (neutral reference)) And.left⟩

/-- An order that queues nothing leaves what it does not remove. -/
theorem has_iff_of_removal {x : Receipt} (neutral : ∀ other, ¬ x.Submits id other)
    (left : d.Has id reference ↔ c.Has id reference ∧ ¬ x.Removes id reference) :
    d.Has id reference ↔ x.Submits id reference ∨
      c.Has id reference ∧ ¬ x.Removes id reference ∧ ∀ other, ¬ x.Submits id other := by
  rw [left]
  exact ⟨fun stored => .inr ⟨stored.1, stored.2, neutral⟩,
    fun either => either.elim (fun submits => absurd submits (neutral reference))
      fun stored => ⟨stored.1, stored.2.1⟩⟩

open Contents Receipt in
theorem Outcome.has_iff (h : c.WellFormed) (outcome : Outcome c order result d) :
    d.Has id reference ↔ (Receipt.mk order (result.map Prod.fst)).Submits id reference ∨
      c.Has id reference ∧ ¬ (Receipt.mk order (result.map Prod.fst)).Removes id reference ∧
        ∀ other, ¬ (Receipt.mk order (result.map Prod.fst)).Submits id other := by
  cases outcome with
  | @queued batch d after queued =>
    have removes : ¬ (Receipt.mk (.submitAll batch)
        (.ok (.ids (batch.map Task.id)))).Removes id reference := nofun
    rw [queue_eq_ok queued, has_foldl_append (distinct_of_queue queued)]
    simp only [Except.map, submits_batch, removes, not_false_eq_true, true_and]
    refine or_congr_right (and_congr_right fun _ => ?_)
    constructor
    · rintro others other ⟨task, member, own, -⟩
      exact others task member own
    · exact fun none task member own => none task.reference ⟨task, member, own, rfl⟩
  | duplicate _ | idle | unknown _ | absent _ | notRunning _ _ | overflow _ _ _ _ | unread =>
    exact has_iff_of_neutral nofun nofun Iff.rfl
  | @started now task after found _ _ =>
    have stored :
        c.tasks.get? { task with started := some now, state := .running }.id = some task := found
    exact has_iff_of_neutral nofun nofun (has_put_same stored rfl)
  | @acknowledged now removed task after estimates found =>
    refine has_iff_of_removal nofun ?_
    rw [Except.map, removes_acknowledge]
    exact has_take c removed
  | @cancelled removed task after found =>
    refine has_iff_of_removal nofun ?_
    rw [Except.map, removes_cancel]
    exact has_take c removed
  | @failed own task after found _ _ =>
    have stored : c.tasks.get? { task with state := .error }.id = some task := by
      rw [h.keyed found, found]
    exact has_iff_of_neutral nofun nofun (has_put_same stored rfl)
  | @retried own task after found _ _ _ =>
    have stored : c.tasks.get? { task with
        attempts := task.attempts + 1, started := none, state := .queued }.id = some task := by
      rw [h.keyed found, found]
    exact has_iff_of_neutral nofun nofun (has_put_same stored rfl)
  | requeued stored =>
    have known := fun task member => (stored task member).1
    exact has_iff_of_neutral nofun nofun (has_foldl_putBack known)
  | @removed key after =>
    refine has_iff_of_removal nofun ?_
    rw [Except.map, removes_byReference]
    exact has_removeByReference h key
  | limited => exact has_iff_of_neutral nofun nofun Iff.rfl
  | retryLimited => exact has_iff_of_neutral nofun nofun Iff.rfl

end Order

/-! ## 2. Sequences of orders -/

namespace Engine

/-- An order given to an engine, which pages through its rows with the settings of its store. -/
def give (e : Engine) (order : Order) : Except Failure Order.Answer × Engine :=
  e.perform (order.operation e.store.settings.cursor e.rows)

/-- What orders given one after the other lead to, with their answers. -/
inductive Served (start : Engine) : Ledger → Engine → Prop
  | nil : Served start [] start
  | snoc {h : Ledger} {e : Engine} (order : Order) : Served start h e →
      Served start (h ++ [⟨order, (e.give order).1⟩]) (e.give order).2

/-- An engine agrees with the history of its orders. -/
structure Tracks (start : Engine) (h : Ledger) (e : Engine) : Prop where
  settings : e.store.settings = start.store.settings
  free : e.store.free = true
  wellFormed : e.store.committed.WellFormed
  has : ∀ id reference, e.store.committed.Has id reference ↔ h.Keeps id reference

variable {start e : Engine} {h : Ledger}

/-- An order is answered by one of its outcomes. -/
theorem Tracks.outcome (t : Tracks start h e) (order : Order) :
    ∃ result, order.Outcome e.store.committed result (e.give order).2.store.committed ∧
      (e.give order).1 = result.map Prod.fst := by
  have outcome := Order.exec_outcome t.wellFormed e.store.settings.cursor e.rows order
  obtain ⟨answer, committed, -, -⟩ :=
    Order.perform_order t.wellFormed t.free e.store.settings.cursor e.rows order
  rw [← committed] at outcome
  exact ⟨_, outcome, answer⟩

theorem Tracks.give (t : Tracks start h e) (order : Order) :
    Tracks start (h ++ [⟨order, (e.give order).1⟩]) (e.give order).2 := by
  obtain ⟨result, outcome, answer⟩ := t.outcome order
  obtain ⟨-, -, opened, settings⟩ :=
    Order.perform_order t.wellFormed t.free e.store.settings.cursor e.rows order
  refine ⟨settings.trans t.settings, ?_, (outcome.follows t.wellFormed).wellFormed, ?_⟩
  · rw [Store.free, Engine.give, opened]
    rfl
  · intro id reference
    rw [Ledger.keeps_snoc, answer, ← t.has id reference]
    exact outcome.has_iff t.wellFormed

theorem tracks_served {settings : StoreSettings} (empty : start.store = .new settings)
    (served : Served start h e) : Tracks start h e := by
  induction served with
  | nil =>
    have nothing : ∀ id reference, ¬ start.store.committed.Has id reference := by
      rw [empty]
      rintro id reference ⟨task, found, -⟩
      cases found
    refine ⟨rfl, ?_, ?_, fun id reference => ?_⟩
    · rw [empty]
      rfl
    · rw [empty]
      exact Contents.wellFormed_empty
    · exact iff_of_false (nothing id reference) since_nil
  | snoc order _ ih => exact ih.give order

/-- A history that goes on had an engine that gave its next answer. -/
theorem Served.split {past future : Ledger} {x : Receipt}
    (served : Served start (past ++ x :: future) e) :
    ∃ e', Served start past e' ∧ x.answer = (e'.give x.order).1 := by
  generalize whole : past ++ x :: future = h at served
  induction served generalizing future with
  | nil => simp at whole
  | @snoc h e order earlier ih =>
    rcases snoc_eq_append_cons.mp whole.symm with ⟨rfl, rfl, -⟩ | ⟨front, -, before⟩
    · exact ⟨e, earlier, rfl⟩
    · exact ih before.symm

/-! ## 3. Conservation -/

/-- A task is stored. -/
def Stores (e : Engine) (id : TaskId) : Prop :=
  ∃ task, e.store.committed.tasks.get? id = some task

/-- The rows of the listing of a state, read to the end with a cursor. -/
def rowsIn (e : Engine) (state : TaskState) : Except Failure (List Task) :=
  (e.store.run none (Cursor.collect (Listing.inState state none).source e.rows
    (.new e.store.settings.cursor))).1

theorem Tracks.stores_iff (t : Tracks start h e) (id : TaskId) :
    e.Stores id ↔ ∃ reference, h.Keeps id reference := by
  constructor
  · rintro ⟨task, found⟩
    exact ⟨task.reference, (t.has id task.reference).mp ⟨task, found, rfl⟩⟩
  · rintro ⟨reference, keeps⟩
    obtain ⟨task, found, -⟩ := (t.has id reference).mpr keeps
    exact ⟨task, found⟩

/-- A removal of one task. -/
def IsRemoval (id : TaskId) (order : Order) : Prop :=
  order = .cancel id false ∨ ∃ now, order = .acknowledge now id

theorem Tracks.removal_stored (t : Tracks start h e) {id : TaskId} {order : Order}
    (removal : IsRemoval id order) (stored : e.Stores id) :
    (e.give order).1 = .ok (.flag true) ∧ ¬ (e.give order).2.Stores id := by
  obtain ⟨result, outcome, answer⟩ := t.outcome order
  obtain ⟨task, found⟩ := stored
  rw [answer, Stores]
  rcases removal with rfl | ⟨now, rfl⟩
  · generalize (e.give (.cancel id false)).2.store.committed = d at outcome
    cases outcome with
    | absent absent => rw [absent] at found; cases found
    | cancelled _ => exact ⟨rfl, by simp [Contents.get?_take]⟩
  · generalize (e.give (.acknowledge now id)).2.store.committed = d at outcome
    cases outcome with
    | unknown unknown => rw [unknown] at found; cases found
    | acknowledged _ => exact ⟨rfl, by simp [Contents.get?_take]⟩

theorem Tracks.removal_unknown (t : Tracks start h e) {id : TaskId} {order : Order}
    (removal : IsRemoval id order) (unknown : ¬ e.Stores id) :
    (e.give order).1 = .ok (.flag false) ∧
      (e.give order).2.store.committed = e.store.committed := by
  obtain ⟨result, outcome, answer⟩ := t.outcome order
  rw [answer]
  rcases removal with rfl | ⟨now, rfl⟩
  · generalize (e.give (.cancel id false)).2.store.committed = d at outcome
    cases outcome with
    | absent _ => exact ⟨rfl, rfl⟩
    | cancelled found => exact absurd ⟨_, found⟩ unknown
  · generalize (e.give (.acknowledge now id)).2.store.committed = d at outcome
    cases outcome with
    | unknown _ => exact ⟨rfl, rfl⟩
    | acknowledged found => exact absurd ⟨_, found⟩ unknown

/-- Between a removal and the next submission, further removals find nothing. -/
theorem Served.removed_once {settings : StoreSettings} (empty : start.store = .new settings)
    {past middle future : Ledger} {x y : Receipt} {id : TaskId} {reference : Option String}
    (served : Served start (past ++ x :: (middle ++ y :: future)) e)
    (keeps : past.Keeps id reference) (removes : x.Removes id reference)
    (since : ∀ z ∈ middle, ∀ other, ¬ z.Submits id other) (again : IsRemoval id y.order) :
    y.answer = .ok (.flag false) := by
  have regroup : past ++ x :: (middle ++ y :: future) = (past ++ [x] ++ middle) ++ y :: future := by
    simp
  -- A task has one correlation key only, so nothing is kept under another one.
  have gone : ∀ other, ¬ Ledger.Keeps (past ++ [x]) id other := by
    intro other kept
    obtain ⟨e', earlier, -⟩ := served.split
    have t := tracks_served empty earlier
    rcases Ledger.keeps_snoc.mp kept with submits | ⟨before, stays, -⟩
    · cases submits
      cases removes
    · obtain ⟨task, found, rfl⟩ := (t.has id other).mpr before
      obtain ⟨same, found', rfl⟩ := (t.has id reference).mpr keeps
      rw [found] at found'
      cases found'
      exact stays removes
  -- So the task is not stored either when the second removal is ordered.
  rw [regroup] at served
  obtain ⟨e', earlier, answer⟩ := served.split
  have t := tracks_served empty earlier
  have unknown : ¬ e'.Stores id := by
    rw [t.stores_iff]
    rintro ⟨other, kept⟩
    exact Ledger.not_keeps_append gone since other kept
  rw [answer]
  exact (t.removal_unknown again unknown).1

/-- The number that a removal by correlation key answers is that of the tasks it removed. -/
theorem Tracks.byReference (t : Tracks start h e) (key : String) :
    ∃ n, (e.give (.cancelByReference key)).1 = .ok (.number n) ∧
      (e.give (.cancelByReference key)).2.store.size + n = e.store.size ∧
      ∀ id, (e.give (.cancelByReference key)).2.Stores id ↔
        ∃ reference, h.Keeps id reference ∧ reference ≠ some key := by
  obtain ⟨result, outcome, answer⟩ := t.outcome (.cancelByReference key)
  have has (id reference) : (e.store.committed.removeByReference key).2.Has id reference ↔
      e.store.committed.Has id reference ∧ reference ≠ some key :=
    Contents.has_removeByReference t.wellFormed key
  have size := Contents.size_removeByReference t.wellFormed key
  rw [answer]
  simp only [Stores, Store.size]
  generalize (e.give (.cancelByReference key)).2.store.committed = d at outcome
  cases outcome with
  | removed =>
    refine ⟨_, rfl, size, fun id => ?_⟩
    constructor
    · rintro ⟨task, found⟩
      obtain ⟨stored, other⟩ := (has id task.reference).mp ⟨task, found, rfl⟩
      exact ⟨task.reference, (t.has id _).mp stored, other⟩
    · rintro ⟨reference, keeps, other⟩
      obtain ⟨task, found, -⟩ := (has id reference).mpr ⟨(t.has id reference).mpr keeps, other⟩
      exact ⟨task, found⟩

/-- Reading a listing to its end gives all its rows. -/
theorem Tracks.rowsIn_eq (t : Tracks start h e) (pages : e.store.settings.cursor.pageSize ≠ 0)
    (state : TaskState) :
    e.rowsIn state = .ok (e.store.committed.list (.inState state none)) := by
  have whole : (Cursor.new e.store.settings.cursor : Cursor Task).range = none := rfl
  have short : (e.store.committed.list (.inState state none)).length ≤ e.rows :=
    Nat.le_succ_of_le (Contents.length_list_le t.wellFormed _)
  have shows := Listing.source_shows (.inState state none) e.store.committed
  rw [rowsIn, Store.run_outside t.free, Cursor.collect_exec shows e.rows whole,
    Cursor.remaining_new pages, List.take_of_length_le short]

/-- Every stored task is a row of exactly one of the three listings, once. -/
theorem Tracks.listed (t : Tracks start h e) (pages : e.store.settings.cursor.pageSize ≠ 0) :
    ∃ queued running failed, e.rowsIn .queued = .ok queued ∧ e.rowsIn .running = .ok running ∧
      e.rowsIn .error = .ok failed ∧ ∀ id,
        (e.Stores id → ((queued ++ running ++ failed).map Task.id).count id = 1) ∧
        (¬ e.Stores id → ((queued ++ running ++ failed).map Task.id).count id = 0) := by
  refine ⟨_, _, _, t.rowsIn_eq pages .queued, t.rowsIn_eq pages .running,
    t.rowsIn_eq pages .error, fun id => ⟨fun stored => ?_, fun unknown => ?_⟩⟩
  · exact List.count_eq_one_of_mem (Contents.idsByState_nodup t.wellFormed)
      ((Contents.mem_idsByState t.wellFormed).mpr stored)
  · exact List.count_eq_zero_of_not_mem fun member =>
      unknown ((Contents.mem_idsByState t.wellFormed).mp member)

/-- What holds after any sequence of orders, and of the next one. -/
structure Conserved (h : Ledger) (e : Engine) : Prop where
  /-- The stored tasks are those that were submitted and not removed since. -/
  stored : ∀ id, e.Stores id ↔ ∃ reference, h.Keeps id reference
  /-- A removal of a stored task succeeds. -/
  removal : ∀ id order, IsRemoval id order → e.Stores id →
    (e.give order).1 = .ok (.flag true) ∧ ¬ (e.give order).2.Stores id
  /-- A removal of a task that is not stored fails and changes nothing. -/
  unknown : ∀ id order, IsRemoval id order → ¬ e.Stores id →
    (e.give order).1 = .ok (.flag false) ∧ (e.give order).2.store.committed = e.store.committed
  /-- After a removal the further ones fail until the task is submitted again. -/
  once : ∀ (past : Ledger) x middle y future id reference,
    h = past ++ x :: (middle ++ y :: future) → past.Keeps id reference →
    x.Removes id reference → (∀ z ∈ middle, ∀ other, ¬ z.Submits id other) →
    IsRemoval id y.order → y.answer = .ok (.flag false)
  /-- A removal by correlation key answers how many tasks it removed, which are those with the
  key. -/
  byReference : ∀ key, ∃ n, (e.give (.cancelByReference key)).1 = .ok (.number n) ∧
    (e.give (.cancelByReference key)).2.store.size + n = e.store.size ∧
    ∀ id, (e.give (.cancelByReference key)).2.Stores id ↔
      ∃ reference, h.Keeps id reference ∧ reference ≠ some key
  /-- Every stored task is a row of exactly one of the three listings, once. -/
  listed : ∃ queued running failed, e.rowsIn .queued = .ok queued ∧
    e.rowsIn .running = .ok running ∧ e.rowsIn .error = .ok failed ∧ ∀ id,
      (e.Stores id → ((queued ++ running ++ failed).map Task.id).count id = 1) ∧
      (¬ e.Stores id → ((queued ++ running ++ failed).map Task.id).count id = 0)

/-- Whatever is ordered of an engine over an empty store, in any sequence, no task is lost or
doubled. -/
theorem served_conserves {settings : StoreSettings} (empty : start.store = .new settings)
    (pages : settings.cursor.pageSize ≠ 0) (served : Served start h e) : Conserved h e := by
  have t := tracks_served empty served
  have pages : e.store.settings.cursor.pageSize ≠ 0 := by
    rw [t.settings, empty]
    exact pages
  refine ⟨t.stores_iff, fun id order => t.removal_stored, fun id order => t.removal_unknown, ?_,
    t.byReference, t.listed pages⟩
  rintro past x middle y future id reference rfl keeps removes since again
  exact served.removed_once empty keeps removes since again

/-- A task is queued, refused a second time, taken, put back, and removed once. -/
theorem served_conserves_submit_and_remove :
    let start := Engine.new .inMemory .standard
    ∃ h e, start.store = .new .inMemory ∧ StoreSettings.inMemory.cursor.pageSize ≠ 0 ∧
      Served start h e ∧ h.map (·.answer.isOk) = [true, false, true, true, true, true] ∧
      e.store.size = 0 ∧ Conserved h e := by
  intro start
  have begins : Served start [] start := .nil
  have queued := begins.snoc (.submitAll [default])
  have refused := queued.snoc (.submitAll [default])
  have taken := (refused.snoc (.acquire 0)).snoc .requeueAll
  have served := (taken.snoc (.acknowledge 0 default)).snoc (.cancel default false)
  have conserved := served_conserves rfl (by decide) served
  exact ⟨_, _, rfl, by decide, served, by decide +kernel, by decide +kernel, conserved⟩

end Engine

end TaskQueue
