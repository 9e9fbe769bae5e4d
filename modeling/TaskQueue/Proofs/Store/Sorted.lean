import TaskQueue.Proofs.Store.Index
import Mathlib.Data.List.Sort

/-!
# Listings are sorted by dispatch order

No two stored tasks have the same number, so within one state dispatch order says of any two tasks
which one comes first.

Results:
1. `Numbered.answer`, `Reachable.numbered`: the numbers of stored tasks differ.
2. `mergeSort_before`: sorting tasks of one part of the index by dispatch order sorts them by rank.
3. `list_inState`, `list_pending`: the listings are stored tasks, sorted.
-/

namespace TaskQueue

namespace Contents

variable {c : Contents}

/-! ## 1. Numbers -/

/-- Each stored task has a number of its own, below the next one. -/
structure Numbered (c : Contents) : Prop where
  below : ∀ {id task}, c.tasks.get? id = some task → task.order < c.nextOrder
  own : ∀ {id other task record}, c.tasks.get? id = some task →
    c.tasks.get? other = some record → task.order = record.order → id = other

theorem numbered_empty : Contents.empty.Numbered where
  below stored := by simp [Contents.empty] at stored
  own stored := by simp [Contents.empty] at stored

@[simp] theorem nextOrder_take (c : Contents) (id : TaskId) :
    (c.take id).nextOrder = c.nextOrder := by
  unfold take
  split <;> rfl

@[simp] theorem nextOrder_put (c : Contents) (task : Task) :
    (c.put task).nextOrder = c.nextOrder :=
  nextOrder_take c task.id

theorem Numbered.take (h : c.Numbered) (id : TaskId) : (c.take id).Numbered := by
  refine ⟨?_, ?_⟩
  · intro other task stored
    rw [get?_take] at stored
    rw [nextOrder_take]
    split at stored
    · cases stored
    · exact h.below stored
  · intro first second task record stored stored' same
    rw [get?_take] at stored stored'
    split at stored
    · cases stored
    split at stored'
    · cases stored'
    exact h.own stored stored' same

/-- A task with a number that no other one has is put in. -/
theorem Numbered.put (h : c.Numbered) {task : Task} (below : task.order < c.nextOrder)
    (own : ∀ {id record}, c.tasks.get? id = some record → record.order = task.order →
      id = task.id) : (c.put task).Numbered := by
  refine ⟨?_, ?_⟩
  · intro id record stored
    rw [get?_put] at stored
    rw [nextOrder_put]
    split at stored
    · cases stored
      exact below
    · exact h.below stored
  · intro first second record record' stored stored' same
    rw [get?_put] at stored stored'
    split at stored <;> split at stored'
    · next here there => exact here.trans there.symm
    · next here _ =>
      cases stored
      exact here.trans (own stored' same.symm).symm
    · next _ there =>
      cases stored'
      exact (own stored same).trans there.symm
    · exact h.own stored stored' same

theorem Numbered.congr {d : Contents} (h : c.Numbered)
    (tasks : ∀ id, d.tasks.get? id = c.tasks.get? id) (next : d.nextOrder = c.nextOrder) :
    d.Numbered := by
  refine ⟨?_, ?_⟩
  · intro id task stored
    rw [tasks] at stored
    rw [next]
    exact h.below stored
  · intro id other task record stored stored'
    rw [tasks] at stored stored'
    exact h.own stored stored'

theorem Numbered.append (h : c.Numbered) (task : Task) : (c.append task).Numbered := by
  have more : { c with nextOrder := c.nextOrder + 1 }.Numbered :=
    ⟨fun stored => Nat.lt_succ_of_lt (h.below stored), h.own⟩
  have stored : ({ c with nextOrder := c.nextOrder + 1 }.put
      { task with order := c.nextOrder, state := .queued }).Numbered :=
    more.put (Nat.lt_succ_self _) fun found same => absurd (h.below found) (by simp [same])
  refine stored.congr (fun id => ?_) ?_
  · simp only [Contents.append, get?_put]
  · simp [Contents.append]

/-- A change that keeps the numbers apart may be made for each of some items. -/
theorem Numbered.foldl {α : Type} {change : Contents → α → Contents} (h : c.Numbered)
    (each : ∀ {c : Contents}, c.Numbered → ∀ a, (change c a).Numbered) (items : List α) :
    (items.foldl change c).Numbered :=
  List.foldlRecOn items change h fun _ kept item _ => each kept item

theorem Numbered.answer (h : c.Numbered) (q : Request) : (c.answer q).2.Numbered := by
  cases q with
  | remove id => exact h.take id
  | removeByReference reference => exact h.foldl Numbered.take _
  | queue batch =>
    simp only [Contents.answer, Contents.queue]
    split
    · next eq =>
      split at eq
      · cases eq
      · cases eq
        exact h.foldl Numbered.append batch
    · exact h
  | setState task state =>
    simp only [Contents.answer, Contents.setState]
    split
    · next eq =>
      split at eq
      · cases eq
      · next stored found =>
        cases eq
        have below : stored.order < c.nextOrder := h.below found
        exact h.put below fun other same => h.own other found same
    · exact h
  | setRateLimit tag limit => exact h.congr (fun _ => rfl) rfl
  | setMaxRetries tag limit => exact h.congr (fun _ => rfl) rfl
  | addDuration kind ms => exact h.congr (fun _ => rfl) rfl
  | setEstimate kind ms => exact h.congr (fun _ => rfl) rfl
  | _ => exact h

theorem Reachable.numbered (h : c.Reachable) : c.Numbered := by
  induction h with
  | empty => exact numbered_empty
  | answer _ _ ih => exact ih.answer _

end Contents

/-! ## 2. Dispatch order and ranks -/

namespace Task

instance : Std.TransCmp dispatchOrder :=
  inferInstanceAs <| Std.TransCmp <|
    compareLex (fun a b => compareOn (fun task : Task => task.priority.toInt) b a) <|
    compareLex (compareOn fun task : Task => task.created.toNat) (compareOn Task.order)

theorem dispatchLE_trans (a b c : Task) (first : dispatchLE a b = true)
    (second : dispatchLE b c = true) : dispatchLE a c = true :=
  Std.TransCmp.isLE_trans first second

theorem dispatchLE_total (a b : Task) : (dispatchLE a b || dispatchLE b a) = true := by
  unfold dispatchLE
  have swap : dispatchOrder a b = (dispatchOrder b a).swap := Std.OrientedCmp.eq_swap
  rw [swap]
  cases dispatchOrder b a <;> rfl

/-- Tasks of the same number only are equal in dispatch order. -/
theorem order_of_dispatchOrder {a b : Task} (same : dispatchOrder a b = .eq) :
    a.order = b.order := by
  simp only [dispatchOrder, Ordering.then_eq_eq, Std.LawfulEqCmp.compare_eq_iff_eq] at same
  exact same.2.2

/-- Of two tasks with different numbers one comes first. -/
theorem dispatchOrder_lt {a b : Task} (le : dispatchLE a b = true) (differ : a.order ≠ b.order) :
    dispatchOrder a b = .lt := by
  unfold dispatchLE at le
  cases order : dispatchOrder a b with
  | lt => rfl
  | eq => exact absurd (order_of_dispatchOrder order) differ
  | gt => simp [order] at le

end Task

theorem Rank.compare_of (a b : Task) : (Rank.of a).compare (Rank.of b) =
    (Ord.compare a.state.bucket b.state.bucket).then
      ((Task.dispatchOrder a b).then (Ord.compare a.id.toNat b.id.toNat)) := by
  simp only [Rank.compare, Rank.of, Task.dispatchOrder, Ordering.then_assoc]

/-- Within one part of the index the ranks are in dispatch order. -/
theorem Rank.before_of_dispatchLE {a b : Task} (bucket : a.state.bucket = b.state.bucket)
    (le : Task.dispatchLE a b = true) (differ : a.order ≠ b.order) :
    (Rank.of a).Before (Rank.of b) := by
  have less := Task.dispatchOrder_lt le differ
  have same : Ord.compare a.state.bucket b.state.bucket = .eq := Nat.compare_eq_eq.mpr bucket
  rw [Rank.Before, Rank.compare_of, same, less]
  rfl

theorem Rank.before_of_bucket {a b : Task} (bucket : a.state.bucket < b.state.bucket) :
    (Rank.of a).Before (Rank.of b) := by
  have less : Ord.compare a.state.bucket b.state.bucket = .lt := Nat.compare_eq_lt.mpr bucket
  rw [Rank.Before, Rank.compare_of, less]
  rfl

namespace Contents

variable {c : Contents}

/-- The stored tasks of a kind in dispatch order. -/
def sorted (c : Contents) (p : Task → Bool) : List Task :=
  (c.tasks.values.filter p).mergeSort Task.dispatchLE

theorem mem_sorted (h : c.WellFormed) {p : Task → Bool} {task : Task} :
    task ∈ c.sorted p ↔ c.tasks.get? task.id = some task ∧ p task = true := by
  rw [sorted, List.mem_mergeSort, List.mem_filter, Table.mem_values_iff]
  constructor
  · rintro ⟨⟨id, stored⟩, kind⟩
    rw [← h.keyed stored] at stored
    exact ⟨stored, kind⟩
  · rintro ⟨stored, kind⟩
    exact ⟨⟨task.id, stored⟩, kind⟩

theorem sorted_nodup (h : c.WellFormed) (p : Task → Bool) : (c.sorted p).Nodup :=
  (List.mergeSort_perm _ _).nodup_iff.mpr ((values_nodup h).filter p)

theorem sorted_before (h : c.WellFormed) (numbered : c.Numbered) {p : Task → Bool} {bucket : Nat}
    (one : ∀ task, p task = true → task.state.bucket = bucket) :
    (c.sorted p).Pairwise fun a b => (Rank.of a).Before (Rank.of b) := by
  have ordered := List.pairwise_mergeSort Task.dispatchLE_trans Task.dispatchLE_total
    (c.tasks.values.filter p)
  refine (ordered.and (sorted_nodup h p)).imp_of_mem ?_
  rintro a b first second ⟨le, differ⟩
  obtain ⟨stored, kind⟩ := (mem_sorted h).mp first
  obtain ⟨stored', kind'⟩ := (mem_sorted h).mp second
  refine Rank.before_of_dispatchLE ((one a kind).trans (one b kind').symm) le fun same => ?_
  rw [numbered.own stored stored' same] at stored
  exact differ (Option.some.inj (stored.symm.trans stored'))

/-! ## 3. Listings -/

/-- Tasks in the order of their ranks are a listing, if they are the tasks that belong to it. -/
theorem list_eq (h : c.WellFormed) {listing : Listing} {rows : List Task}
    (before : rows.Pairwise fun a b => (Rank.of a).Before (Rank.of b))
    (belongs : ∀ task, task ∈ rows ↔ task ∈ c.list listing) : c.list listing = rows := by
  have irreflexive : ∀ {a b : Task}, (Rank.of a).Before (Rank.of b) → a ≠ b := by
    rintro a _ less rfl
    exact less.ne rfl
  have nodup : rows.Nodup := before.imp irreflexive
  have nodup' : (c.list listing).Nodup := (list_sorted h listing).imp irreflexive
  have perm : (c.list listing).Perm rows :=
    (List.perm_ext_iff_of_nodup nodup' nodup).mpr fun task => (belongs task).symm
  refine perm.eq_of_pairwise ?_ (list_sorted h listing) before
  intro a b _ _ less greater
  exact absurd rfl (irreflexive (less.trans greater))

theorem bucket_of_state {state : TaskState} {task : Task} {rest : Bool}
    (belongs : (decide (task.state = state) && rest) = true) :
    task.state.bucket = state.bucket := by
  simp only [Bool.and_eq_true, decide_eq_true_eq] at belongs
  rw [belongs.1]

theorem list_inState (h : c.WellFormed) (numbered : c.Numbered) {state : TaskState}
    (settled : state ≠ .pending) (kind : Option String) : c.list (.inState state kind) =
      c.sorted fun task => task.state = state && kind.all (task.kind = ·) := by
  refine list_eq h (sorted_before h numbered fun _ => bucket_of_state) fun task => ?_
  · rw [mem_sorted h, mem_list h]
    refine and_congr_right fun stored => ?_
    have same : task.state.bucket = state.bucket ↔ task.state = state :=
      ⟨TaskState.eq_of_bucket (h.settled stored) settled, congrArg _⟩
    simp [Listing.hasBucket, Listing.includes, same]

theorem list_pending (h : c.WellFormed) (numbered : c.Numbered) (tag : Option String) :
    c.list (.pending tag) =
      c.sorted (fun task => task.state = .running && tag.all task.hasTag) ++
        c.sorted fun task => task.state = .queued && tag.all task.hasTag := by
  refine list_eq h (List.pairwise_append.mpr ⟨sorted_before h numbered fun _ => bucket_of_state,
    sorted_before h numbered fun _ => bucket_of_state, ?_⟩) fun task => ?_
  · intro a first b second
    have running := bucket_of_state ((mem_sorted h).mp first).2
    have queued := bucket_of_state ((mem_sorted h).mp second).2
    refine Rank.before_of_bucket ?_
    rw [running, queued]
    decide
  · rw [List.mem_append, mem_sorted h, mem_sorted h, mem_list h, ← and_or_left]
    refine and_congr_right fun stored => ?_
    have settled := h.settled stored
    simp only [Listing.hasBucket, Listing.includes, Bool.and_eq_true, decide_eq_true_eq,
      ← or_and_right]
    refine and_congr_left fun _ => ?_
    cases state : task.state with
    | pending => exact absurd state settled
    | running | queued | error => simp [TaskState.bucket]

/-- A sorted list has the tasks that a count is about. -/
theorem length_sorted (c : Contents) (p : Task → Bool) :
    (c.sorted p).length = (c.tasks.values.filter p).length :=
  List.length_mergeSort _

end Contents

end TaskQueue
