import TaskQueue.Proofs.Store.Refusals

/-!
# The tasks of a correlation key

The tasks are kept in a table whose order means nothing, and dispatch order does not look at their
identifiers. So the first task of a key is one and the same, in whichever order the table is gone
through, because no two stored tasks have the same number.

Results:
1. `first?_cases`: the first of some tasks in any total order.
2. `heads_first`, `heads_last`: of the tasks of a key, the first one comes before all others, and the
   last one after them.
3. `Shuffles`: the same contents in another order. `drops_removeByReference`: what is left without
   the tasks of a key.
4. `Run.references_exact`: all of this in every run.
-/

namespace TaskQueue

/-- One task comes before another one in dispatch order. -/
def Task.Precedes (a b : Task) : Prop :=
  Task.dispatchOrder a b = .lt

theorem Task.Precedes.asymm {a b : Task} (before : a.Precedes b) : ¬ b.Precedes a := by
  intro after
  have swap : Task.dispatchOrder a b = (Task.dispatchOrder b a).swap := Std.OrientedCmp.eq_swap
  rw [Precedes] at before after
  rw [before, after] at swap
  cases swap

namespace Contents

variable {c d e : Contents} {reference other : String} {task : Task}

/-! ## 1. The first of some tasks -/

theorem first?_cases {le : Task → Task → Bool} (total : ∀ a b, (le a b || le b a) = true)
    (trans : ∀ a b c, le a b = true → le b c = true → le a c = true) (tasks : List Task) :
    tasks = [] ∧ first? le tasks = none ∨
      ∃ best ∈ tasks, first? le tasks = some best ∧ ∀ task ∈ tasks, le best task = true := by
  have self (a : Task) : le a a = true := (Bool.or_self _).symm.trans (total a a)
  induction tasks with
  | nil => exact .inl ⟨rfl, rfl⟩
  | cons task rest ih =>
    refine .inr ?_
    rw [first?]
    rcases ih with ⟨rfl, none⟩ | ⟨best, member, found, least⟩
    · rw [none]
      exact ⟨task, List.mem_cons_self, rfl, fun other only => by
        rw [List.mem_singleton.mp only]
        exact self task⟩
    · rw [found]
      cases less : le task best with
      | true =>
        refine ⟨task, List.mem_cons_self, if_pos less, List.forall_mem_cons.mpr ⟨self task, ?_⟩⟩
        exact fun other later => trans _ _ _ less (least other later)
      | false =>
        have greater : le best task = true := by
          have either := total task best
          rwa [less, Bool.false_or] at either
        refine ⟨best, List.mem_cons_of_mem _ member, if_neg (by simp [less]), ?_⟩
        exact List.forall_mem_cons.mpr ⟨greater, least⟩

/-! ## 2. The first and the last task of a key -/

/-- A task is stored and has a correlation key. -/
def Keyed (c : Contents) (reference : String) (task : Task) : Prop :=
  c.tasks.get? task.id = some task ∧ task.reference = some reference

/-- The one of some tasks that stands before all others, or none if there are no such tasks. -/
def Heads (before : Task → Task → Prop) (among : Task → Prop) : Option Task → Prop
  | none => ∀ task, ¬ among task
  | some task => among task ∧ ∀ other, among other → other ≠ task → before task other

theorem Heads.unique {before : Task → Task → Prop} {among : Task → Prop}
    (asymm : ∀ {a b}, before a b → ¬ before b a) {a b : Option Task} (first : Heads before among a)
    (second : Heads before among b) : a = b := by
  cases a with
  | none =>
    cases b with
    | none => rfl
    | some b => exact absurd second.1 (first b)
  | some a =>
    cases b with
    | none => exact absurd first.1 (second a)
    | some b =>
      by_contra differ
      have differ : b ≠ a := fun same => differ (same ▸ rfl)
      exact asymm (first.2 b second.1 differ) (second.2 a first.1 differ.symm)

theorem mem_withReference (h : c.WellFormed) :
    task ∈ c.withReference reference ↔ c.Keyed reference task := by
  rw [withReference, List.mem_filter, Table.mem_values_iff, decide_eq_true_eq]
  refine and_congr_left fun _ => ⟨fun ⟨id, stored⟩ => ?_, fun stored => ⟨_, stored⟩⟩
  rw [← h.keyed stored] at stored
  exact stored

theorem Keyed.order_ne (numbered : c.Numbered) {a b : Task} (first : c.Keyed reference a)
    (second : c.Keyed reference b) (differ : b ≠ a) : a.order ≠ b.order := by
  intro same
  have stored := first.1
  rw [numbered.own first.1 second.1 same, second.1] at stored
  exact differ (Option.some.inj stored)

/-- The first task of the key in an order that agrees with dispatch order, or with its reverse. -/
theorem heads_first? (h : c.WellFormed) {le : Task → Task → Bool} {before : Task → Task → Prop}
    (total : ∀ a b, (le a b || le b a) = true)
    (trans : ∀ a b c, le a b = true → le b c = true → le a c = true)
    (strict : ∀ {a b}, le a b = true → c.Keyed reference a → c.Keyed reference b → b ≠ a →
      before a b) :
    Heads before (c.Keyed reference) (first? le (c.withReference reference)) := by
  rcases first?_cases total trans (c.withReference reference) with
    ⟨none, found⟩ | ⟨best, member, found, least⟩
  · rw [found]
    intro task keyed
    rw [← mem_withReference h, none] at keyed
    cases keyed
  · rw [found]
    have own := (mem_withReference h).mp member
    exact ⟨own, fun other keyed =>
      strict (least other ((mem_withReference h).mpr keyed)) own keyed⟩

theorem heads_first (h : c.WellFormed) (numbered : c.Numbered) (reference : String) :
    Heads Task.Precedes (c.Keyed reference) (c.firstWithReference reference) :=
  heads_first? h Task.dispatchLE_total Task.dispatchLE_trans fun le own keyed differ =>
    Task.dispatchOrder_lt le (own.order_ne numbered keyed differ)

theorem heads_last (h : c.WellFormed) (numbered : c.Numbered) (reference : String) :
    Heads (fun a b => b.Precedes a) (c.Keyed reference) (c.lastWithReference reference) :=
  heads_first? h (fun a b => Task.dispatchLE_total b a)
    (fun _ _ _ first second => Task.dispatchLE_trans _ _ _ second first)
    fun le own keyed differ =>
      Task.dispatchOrder_lt le (own.order_ne numbered keyed differ).symm

/-! ## 3. Other enumerations, and what is left -/

/-- The same contents, with the tasks enumerated in any order. -/
structure Shuffles (c d : Contents) : Prop where
  tasks : d.tasks.entries.Perm c.tasks.entries
  rest : d = { c with tasks := d.tasks }

theorem shuffles_self (c : Contents) : c.Shuffles c :=
  ⟨.refl _, rfl⟩

theorem Shuffles.get? (shuffles : c.Shuffles d) (id : TaskId) :
    d.tasks.get? id = c.tasks.get? id := by
  refine Option.ext fun task => ?_
  rw [Table.get?_eq_some_iff, Table.get?_eq_some_iff, shuffles.tasks.mem_iff]

theorem Shuffles.wellFormed (shuffles : c.Shuffles d) (h : c.WellFormed) : d.WellFormed := by
  have index : d.index = c.index := by rw [shuffles.rest]
  refine ⟨?_, ?_, index ▸ h.sorted, ?_⟩
  · intro id task stored
    exact h.keyed (shuffles.get? id ▸ stored)
  · intro id task stored
    exact h.settled (shuffles.get? id ▸ stored)
  · intro rank
    rw [index, shuffles.get?, h.indexed]

theorem Shuffles.numbered (shuffles : c.Shuffles d) (numbered : c.Numbered) : d.Numbered :=
  numbered.congr shuffles.get? (by rw [shuffles.rest])

theorem Shuffles.keyed (shuffles : c.Shuffles d) : d.Keyed reference = c.Keyed reference := by
  funext task
  rw [Keyed, Keyed, shuffles.get?]

theorem Shuffles.first (shuffles : c.Shuffles d) (h : c.WellFormed) (numbered : c.Numbered)
    (reference : String) : d.firstWithReference reference = c.firstWithReference reference := by
  have first := heads_first (shuffles.wellFormed h) (shuffles.numbered numbered) reference
  rw [shuffles.keyed] at first
  exact first.unique Task.Precedes.asymm (heads_first h numbered reference)

theorem Shuffles.last (shuffles : c.Shuffles d) (h : c.WellFormed) (numbered : c.Numbered)
    (reference : String) : d.lastWithReference reference = c.lastWithReference reference := by
  have last := heads_last (shuffles.wellFormed h) (shuffles.numbered numbered) reference
  rw [shuffles.keyed] at last
  exact last.unique (fun before => before.asymm) (heads_last h numbered reference)

/-- The contents without the tasks of a correlation key: in each lookup, listing and count they are
missing, and all others are as before. -/
structure Drops (c : Contents) (reference : String) (d : Contents) : Prop where
  get : ∀ id, d.tasks.get? id = (c.tasks.get? id).filter (·.reference ≠ some reference)
  list : ∀ listing, d.list listing = (c.list listing).filter (·.reference ≠ some reference)
  count : ∀ state scope, c.count state scope = d.count state scope +
    (c.tasks.values.filter fun task => task.state = state && scope.includes task).countP
      (·.reference = some reference)
  size : c.tasks.size = d.tasks.size + c.tasks.values.countP (·.reference = some reference)
  first : ∀ other, d.firstWithReference other =
    if other = reference then none else c.firstWithReference other
  last : ∀ other, d.lastWithReference other =
    if other = reference then none else c.lastWithReference other
  rest : ∃ tasks index, d = { c with tasks, index }

/-- The tasks that are left, in some order. -/
theorem values_perm (h : c.WellFormed) (h' : d.WellFormed) {p : Task → Bool}
    (get : ∀ id, d.tasks.get? id = (c.tasks.get? id).filter p) :
    d.tasks.values.Perm (c.tasks.values.filter p) := by
  rw [List.perm_ext_iff_of_nodup (values_nodup h') ((values_nodup h).filter p)]
  intro task
  simp only [Table.mem_values_iff, List.mem_filter, get, Option.filter_eq_some_iff,
    exists_and_right]

/-- Whatever is counted among all tasks is counted among those that are left and those that are not. -/
theorem countP_left {p : Task → Bool} (left : d.tasks.values.Perm (c.tasks.values.filter p))
    (q : Task → Bool) : c.tasks.values.countP q =
      d.tasks.values.countP q + (c.tasks.values.filter q).countP fun task => !p task := by
  rw [left.countP_eq, List.countP_filter, List.countP_filter,
    List.countP_eq_countP_filter_add _ q p, List.countP_filter, List.countP_filter]
  simp only [Bool.and_comm]

/-- The tasks of another key are those there were, and none is left of the key itself. -/
theorem keyed_left (get : ∀ id, d.tasks.get? id =
      (c.tasks.get? id).filter (·.reference ≠ some reference)) :
    d.Keyed other task ↔ other ≠ reference ∧ c.Keyed other task := by
  simp only [Keyed, get, Option.filter_eq_some_iff, decide_eq_true_eq]
  constructor
  · rintro ⟨⟨stored, keeps⟩, own⟩
    exact ⟨fun same => keeps (own.trans (congrArg some same)), stored, own⟩
  · rintro ⟨differ, stored, own⟩
    exact ⟨⟨stored, fun same => differ (Option.some.inj (own.symm.trans same))⟩, own⟩

/-- Who stands before all others of a key does so after the tasks of a key are gone, unless it is
that key. -/
theorem Heads.left {before : Task → Task → Prop} {found found' : Option Task}
    (asymm : ∀ {a b}, before a b → ¬ before b a)
    (get : ∀ id, d.tasks.get? id = (c.tasks.get? id).filter (·.reference ≠ some reference))
    (heads : Heads before (c.Keyed other) found) (heads' : Heads before (d.Keyed other) found') :
    found' = if other = reference then none else found := by
  refine heads'.unique asymm ?_
  split
  · next same => exact fun task keyed => ((keyed_left get).mp keyed).1 same
  · next differ =>
    have same : d.Keyed other = c.Keyed other := by
      funext task
      rw [keyed_left get, and_iff_right differ]
    rwa [same]

theorem drops_of_get (h : c.WellFormed) (numbered : c.Numbered) (h' : d.WellFormed)
    (numbered' : d.Numbered) (rest : ∃ tasks index, d = { c with tasks, index })
    (get : ∀ id, d.tasks.get? id = (c.tasks.get? id).filter (·.reference ≠ some reference)) :
    c.Drops reference d := by
  have left := values_perm h h' get
  have not_not : (fun task : Task => !decide (task.reference ≠ some reference)) =
      fun task => decide (task.reference = some reference) := by
    funext task
    simp
  refine ⟨get, fun listing => ?_, fun state scope => ?_, ?_, fun other => ?_, fun other => ?_, rest⟩
  · refine list_eq h' ((list_sorted h listing).filter _) fun task => ?_
    rw [List.mem_filter, mem_list h, mem_list h', get, Option.filter_eq_some_iff]
    exact and_right_comm
  · rw [count, count, ← List.countP_eq_length_filter, ← List.countP_eq_length_filter,
      countP_left left, not_not]
  · have all := countP_left left fun _ => true
    rw [List.filter_true, not_not, List.countP_true] at all
    rwa [Table.values, Table.values, List.length_map, List.length_map] at all
  · exact (heads_first h numbered _).left Task.Precedes.asymm get (heads_first h' numbered' _)
  · exact (heads_last h numbered _).left (fun before => before.asymm) get
      (heads_last h' numbered' _)

/-- Removing the tasks of a key leaves the others, in whichever order they are enumerated, and says
how many it removed. -/
theorem drops_removeByReference (h : c.WellFormed) (numbered : c.Numbered)
    (shuffles : c.Shuffles d) (reference : String) :
    (d.removeByReference reference).1 = c.tasks.values.countP (·.reference = some reference) ∧
      c.Drops reference (d.removeByReference reference).2 := by
  have h' := shuffles.wellFormed h
  refine ⟨?_, drops_of_get h numbered (h'.foldl WellFormed.take _)
    ((shuffles.numbered numbered).foldl Numbered.take _) ?_ fun id => ?_⟩
  · have values : d.tasks.values.Perm c.tasks.values := shuffles.tasks.map _
    rw [← values.countP_eq, List.countP_eq_length_filter]
    exact List.length_map _
  · obtain ⟨tasks, index, removed⟩ := foldl_take_eq ((d.withReference reference).map Task.id) d
    refine ⟨tasks, index, removed.trans ?_⟩
    rw [shuffles.rest]
  · have gone : id ∈ (d.withReference reference).map Task.id ↔
        ∃ task, c.tasks.get? id = some task ∧ task.reference = some reference := by
      rw [List.mem_map]
      constructor
      · rintro ⟨task, member, rfl⟩
        have keyed := (mem_withReference h').mp member
        rw [shuffles.keyed] at keyed
        exact ⟨task, keyed⟩
      · rintro ⟨task, stored, own⟩
        obtain rfl := h.keyed stored
        refine ⟨task, (mem_withReference h').mpr ?_, rfl⟩
        rw [shuffles.keyed]
        exact ⟨stored, own⟩
    rw [removeByReference, get?_foldl_take, shuffles.get?]
    split
    · next member =>
      obtain ⟨task, stored, own⟩ := gone.mp member
      simp [stored, Option.filter_some, own]
    · next kept =>
      cases stored : c.tasks.get? id with
      | none => rfl
      | some task =>
        have differ : task.reference ≠ some reference :=
          fun own => kept (gone.mpr ⟨task, stored, own⟩)
        simp [Option.filter_some, differ]

end Contents

/-! ## 4. Runs -/

namespace Store

variable {s : Store} {h : History} {settings : StoreSettings}

/-- Whatever has happened at a store, every view shows of each correlation key the first and the last
task in dispatch order, in whichever order the tasks are enumerated: there is none just if no task
of the key is stored, and else it is the one that comes before all the others, or after them.
Removing the tasks of a key says how many they are, and none of them is left in any lookup, listing,
count or cursor, while everything else is as before. -/
theorem Run.references_exact (run : Run (.new settings) h s) (offered : ∀ x ∈ h, x.IsOffered)
    (reference : String) :
    (∀ view, ∃ first last,
      Contents.Heads Task.Precedes ((s.seen view).Keyed reference) first ∧
      Contents.Heads (fun a b => b.Precedes a) ((s.seen view).Keyed reference) last ∧
      s.request view (.firstWithReference reference) = (.ok first, s) ∧
      s.request view (.lastWithReference reference) = (.ok last, s) ∧
      ∀ c, (s.seen view).Shuffles c →
        c.firstWithReference reference = first ∧ c.lastWithReference reference = last) ∧
    let before := s.seen s.openId
    let left := (s.request s.openId (.removeByReference reference)).2
    let n := before.tasks.values.countP (·.reference = some reference)
    (s.request s.openId (.removeByReference reference)).1 = .ok n ∧
    before.Drops reference (left.seen s.openId) ∧
    (∀ cursor : CursorSettings, cursor.pageSize ≠ 0 → ∀ listing,
      left.Lists s.openId cursor listing
        ((before.list listing).filter (·.reference ≠ some reference))) ∧
    ∀ c, before.Shuffles c → ∃ d,
      c.answer (.removeByReference reference) = (.ok n, d) ∧ before.Drops reference d := by
  have reached := (run.reached offered).seen
  refine ⟨fun view => ?_, ?_⟩
  · have formed := (reached view).wellFormed
    have numbered := (reached view).numbered
    exact ⟨_, _, Contents.heads_first formed numbered reference,
      Contents.heads_last formed numbered reference, request_read rfl view, request_read rfl view,
      fun c shuffles => ⟨shuffles.first formed numbered reference,
        shuffles.last formed numbered reference⟩⟩
  · intro before left n
    have formed := (reached s.openId).wellFormed
    have numbered := (reached s.openId).numbered
    obtain ⟨answered, after⟩ := request_here s (.removeByReference reference)
    obtain ⟨number, drops⟩ :=
      Contents.drops_removeByReference formed numbered (Contents.shuffles_self before) reference
    refine ⟨answered.trans (congrArg Except.ok number), after ▸ drops, ?_, ?_⟩
    · intro cursor page listing
      have formed' : (left.seen s.openId).WellFormed := by
        rw [after]
        exact formed.answer (q := .removeByReference reference) trivial
      have rows : (left.seen s.openId).list listing =
          (before.list listing).filter (·.reference ≠ some reference) := by
        rw [after]
        exact drops.list listing
      exact rows ▸ lists_of formed' page listing
    · intro c shuffles
      obtain ⟨number, drops⟩ :=
        Contents.drops_removeByReference formed numbered shuffles reference
      exact ⟨_, congrArg (fun n => (Except.ok n, _)) number, drops⟩

/-- Two tasks of a key, of which the one that was queued first has been put behind the other by a new
record, and one of another key. -/
theorem Run.references_exact_rewritten :
    let id (n : Nat) : TaskId := .ofNat n
    ∃ h s first last, Run (.new .inMemory) h s ∧ (∀ x ∈ h, x.IsOffered) ∧
      Contents.Heads Task.Precedes ((s.seen none).Keyed "invoice") first ∧
      first.map Task.id = some (id 2) ∧
      Contents.Heads (fun a b => b.Precedes a) ((s.seen none).Keyed "invoice") last ∧
      last.map Task.id = some (id 1) ∧
      (s.request none (.removeByReference "invoice")).1 = .ok (2 : Nat) ∧
      (s.seen none).Drops "invoice"
        ((s.request none (.removeByReference "invoice")).2.seen none) := by
  intro id
  let task (n : Nat) (key : String) : Task := .withReference key (.new (id n) 0 "t" .null)
  let queue : Request := .queue [task 1 "invoice", task 2 "invoice", task 3 "order"]
  let behind : Request := .setState (.withPriority (-1) (task 1 "invoice")) .queued
  obtain ⟨_, queued, all⟩ := Run.nil.request (fun _ => nofun) queue trivial
  obtain ⟨h, run, offered⟩ := queued.request all behind nofun
  have shown : ∀ s, s = (((Store.new .inMemory).request none queue).2.request none behind).2 →
      s.openId = none ∧
        ((s.seen none).firstWithReference "invoice").map Task.id = some (id 2) ∧
        ((s.seen none).lastWithReference "invoice").map Task.id = some (id 1) ∧
        (s.seen none).tasks.values.countP (·.reference = some "invoice") = 2 := by
    rintro _ rfl
    exact ⟨rfl, by decide +kernel, by decide +kernel, by decide +kernel⟩
  generalize (((Store.new .inMemory).request none queue).2.request none behind).2 = s at run shown
  obtain ⟨closed, firstId, lastId, number⟩ := shown s rfl
  obtain ⟨views, removed, drops, -, -⟩ := run.references_exact offered "invoice"
  obtain ⟨first, last, heads, heads', -, -, same⟩ := views none
  obtain ⟨own, own'⟩ := same _ (Contents.shuffles_self _)
  rw [own] at firstId
  rw [own'] at lastId
  rw [closed] at removed drops
  rw [number] at removed
  exact ⟨h, s, first, last, run, offered, heads, firstId, heads', lastId, removed, drops⟩

end Store

end TaskQueue
