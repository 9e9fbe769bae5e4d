import TaskQueue.Proofs.Store.Representation

/-!
# Failed writes leave no trace

The first write of a section copies the committed contents, also when it fails. So a failed write
may leave another store than it finds, and what is to be shown is that nobody can tell: whatever can
happen at the one store can happen at the other, with the same answers.

A batch is checked as a whole before any of it is stored. A task clashes if its identifier is stored
already or belongs to a task before it in the batch.

Results:
1. `answer_queue`: a batch is refused for its first task that clashes, or stored as a whole.
2. `Alike.step`, `Alike.indistinct`: stores that show the same go on alike.
3. `request_error`: why a request fails, and that the store it leaves shows the same.
4. `Run.refused_or_queued`: both in every run, and the numbers of a batch are new in it.
-/

namespace TaskQueue

namespace Contents

variable {c d : Contents} {batch earlier later : List Task} {task : Task} {id other : TaskId}

/-! ## 1. Batches -/

/-- The identifier of a task is stored, or belongs to one of the tasks before it. -/
def Clashes (c : Contents) (earlier : List Task) (task : Task) : Prop :=
  (∃ record, c.tasks.get? task.id = some record) ∨ ∃ before ∈ earlier, before.id = task.id

/-- No task of a batch clashes. -/
def Accepts (c : Contents) (batch : List Task) : Prop :=
  ∀ earlier task later, batch = earlier ++ task :: later → ¬ c.Clashes earlier task

/-- The first task of a batch that clashes has this identifier. -/
def FirstClash (c : Contents) (batch : List Task) (id : TaskId) : Prop :=
  ∃ earlier task later, batch = earlier ++ task :: later ∧ c.Accepts earlier ∧
    c.Clashes earlier task ∧ task.id = id

theorem accepts_nil (c : Contents) : c.Accepts [] := by
  intro earlier task later split
  simp at split

theorem accepts_snoc : c.Accepts (earlier ++ [task]) ↔
    c.Accepts earlier ∧ ¬ c.Clashes earlier task := by
  constructor
  · intro accepts
    refine ⟨fun front first back split => ?_, accepts earlier task [] rfl⟩
    exact accepts front first (back ++ [task]) (by simp [split])
  · rintro ⟨accepts, free⟩ front first back split
    rcases snoc_eq_append_cons.mp split with ⟨rfl, rfl, -⟩ | ⟨rest, -, rfl⟩
    · exact free
    · exact accepts front first rest rfl

theorem FirstClash.not_accepts (first : c.FirstClash batch id) : ¬ c.Accepts batch := by
  obtain ⟨earlier, task, later, split, -, clash, -⟩ := first
  exact fun accepts => accepts earlier task later split clash

theorem FirstClash.unique (first : c.FirstClash batch id) (second : c.FirstClash batch other) :
    id = other := by
  obtain ⟨front, a, back, rfl, accepted, clash, rfl⟩ := first
  obtain ⟨ahead, b, behind, split, accepted', clash', rfl⟩ := second
  rcases append_cons_cases split with ⟨-, rfl, -⟩ | ⟨between, rfl, -⟩ | ⟨between, rfl, -⟩
  · rfl
  · exact absurd clash' (accepted ahead b between rfl)
  · exact absurd clash (accepted' front a between rfl)

/-- The check keeps the identifiers of the tasks that it has passed, the latest first. -/
theorem duplicate?_cases (accepted : c.Accepts earlier) (rest : List Task) :
    c.duplicate? (earlier.map Task.id).reverse rest = none ∧ c.Accepts (earlier ++ rest) ∨
      ∃ id, c.duplicate? (earlier.map Task.id).reverse rest = some id ∧
        c.FirstClash (earlier ++ rest) id := by
  induction rest generalizing earlier with
  | nil => exact .inl ⟨rfl, by rwa [List.append_nil]⟩
  | cons task rest ih =>
    have test : (c.tasks.contains task.id ||
        decide (task.id ∈ (earlier.map Task.id).reverse)) = true ↔ c.Clashes earlier task := by
      simp [Clashes, Table.contains_eq_true_iff]
    unfold duplicate?
    by_cases clash : c.Clashes earlier task
    · rw [if_pos (test.mpr clash)]
      exact .inr ⟨task.id, rfl, earlier, task, rest, rfl, accepted, clash, rfl⟩
    · rw [if_neg (mt test.mp clash)]
      have passed := ih (accepts_snoc.mpr ⟨accepted, clash⟩)
      rwa [List.map_append, List.reverse_append, List.append_assoc] at passed

theorem take_eq (c : Contents) (id : TaskId) :
    ∃ tasks index, c.take id = { c with tasks, index } := by
  unfold take
  cases c.tasks.get? id with
  | none => exact ⟨_, _, rfl⟩
  | some stored => exact ⟨_, _, rfl⟩

theorem foldl_take_eq (ids : List TaskId) (c : Contents) :
    ∃ tasks index, ids.foldl take c = { c with tasks, index } := by
  induction ids generalizing c with
  | nil => exact ⟨c.tasks, c.index, rfl⟩
  | cons id rest ih =>
    obtain ⟨tasks, index, taken⟩ := take_eq c id
    obtain ⟨tasks', index', rest'⟩ := ih (c.take id)
    exact ⟨tasks', index', by rw [List.foldl_cons, rest', taken]⟩

theorem put_eq (c : Contents) (task : Task) :
    ∃ tasks index, c.put task = { c with tasks, index } := by
  unfold put take
  cases c.tasks.get? task.id with
  | none => exact ⟨_, _, rfl⟩
  | some stored => exact ⟨_, _, rfl⟩

/-- A batch changes the tasks with their index and the next number. -/
theorem foldl_append_eq (batch : List Task) (c : Contents) :
    ∃ tasks index, batch.foldl append c =
      { c with tasks, index, nextOrder := c.nextOrder + batch.length } := by
  induction batch generalizing c with
  | nil => exact ⟨c.tasks, c.index, rfl⟩
  | cons task rest ih =>
    obtain ⟨tasks, index, put⟩ := put_eq c { task with order := c.nextOrder, state := .queued }
    obtain ⟨tasks', index', rest'⟩ := ih (c.append task)
    refine ⟨tasks', index', ?_⟩
    rw [List.foldl_cons, rest', append, put, List.length_cons, Nat.add_right_comm]
    rfl

theorem get?_foldl_append_other {batch : List Task} (others : ∀ task ∈ batch, task.id ≠ id)
    (c : Contents) : (batch.foldl append c).tasks.get? id = c.tasks.get? id := by
  induction batch generalizing c with
  | nil => rfl
  | cons task rest ih =>
    obtain ⟨first, others⟩ := List.forall_mem_cons.mp others
    rw [List.foldl_cons, ih others]
    exact (get?_put c _ id).trans (if_neg (Ne.symm first))

/-- The contents with a batch, numbered one after the other from the next number on. -/
structure Queues (c : Contents) (batch : List Task) (d : Contents) : Prop where
  stored : ∀ earlier task later, batch = earlier ++ task :: later →
    d.tasks.get? task.id =
      some { task with order := c.nextOrder + earlier.length, state := .queued }
  others : ∀ id, (∀ task ∈ batch, task.id ≠ id) → d.tasks.get? id = c.tasks.get? id
  rest : ∃ tasks index, d = { c with tasks, index, nextOrder := c.nextOrder + batch.length }

theorem queues_foldl_append (accepts : c.Accepts batch) :
    c.Queues batch (batch.foldl append c) := by
  refine ⟨fun earlier task later split => ?_, fun id others => get?_foldl_append_other others c,
    foldl_append_eq batch c⟩
  -- A later task of the same identifier would clash with this one.
  have others : ∀ after ∈ later, after.id ≠ task.id := by
    intro after member same
    obtain ⟨between, rest, rfl⟩ := List.append_of_mem member
    exact accepts (earlier ++ task :: between) after rest (by simp [split])
      (.inr ⟨task, by simp, same.symm⟩)
  have next : (earlier.foldl append c).nextOrder = c.nextOrder + earlier.length := by
    obtain ⟨tasks, index, before⟩ := foldl_append_eq earlier c
    rw [before]
  rw [split, List.foldl_append, List.foldl_cons, get?_foldl_append_other others, ← next]
  exact (get?_put _ _ _).trans (if_pos rfl)

/-- A batch is refused for its first task that clashes, or stored as a whole. -/
theorem answer_queue (c : Contents) (batch : List Task) :
    (∃ id, c.FirstClash batch id ∧
        c.answer (.queue batch) = (.error (.duplicateTask id), c)) ∨
      c.Accepts batch ∧ ∃ d, c.Queues batch d ∧ c.answer (.queue batch) = (.ok (), d) := by
  rcases duplicate?_cases (accepts_nil c) batch with ⟨check, accepts⟩ | ⟨id, check, first⟩
  · have queued : c.queue batch = .ok (batch.foldl append c) := by
      unfold queue
      rw [show c.duplicate? [] batch = none from check]
    refine .inr ⟨accepts, _, queues_foldl_append accepts, ?_⟩
    simp only [answer, queued]
  · have refused : c.queue batch = .error (.duplicateTask id) := by
      unfold queue
      rw [show c.duplicate? [] batch = some id from check]
    refine .inl ⟨id, first, ?_⟩
    simp only [answer, refused]

/-! ## The numbers given out so far -/

theorem numbered_apply (requests : List Request) : (Contents.empty.apply requests).Numbered :=
  List.foldlRecOn requests _ numbered_empty fun _ numbered q _ => numbered.answer q

/-- The next number is greater than that of each task stored now or before. -/
theorem order_lt_next {made rest : List Request} {record : Task}
    (stored : (Contents.empty.apply made).tasks.get? id = some record) :
    record.order < (Contents.empty.apply (made ++ rest)).nextOrder := by
  have grows : Grows (Contents.empty.apply made) (Contents.empty.apply (made ++ rest)) := by
    rw [apply_append]
    exact grows_foldl grows_answer rest _
  exact Nat.lt_of_lt_of_le ((numbered_apply made).below stored) grows.next

end Contents

namespace Store

variable {s s' t u : Store} {h : History} {x : Happening} {settings : StoreSettings}

/-! ## 2. Stores that show the same -/

/-- Two stores show the same from every view. The open section of one of them may have a copy of
what is committed, and that of the other none. -/
structure Alike (s t : Store) : Prop where
  settings : s.settings = t.settings
  committed : s.committed = t.committed
  openId : s.openId = t.openId
  nextSection : s.nextSection = t.nextSection
  changes : s.changes = t.changes
  seen : ∀ view, s.seen view = t.seen view

theorem alike_self (s : Store) : Alike s s :=
  ⟨rfl, rfl, rfl, rfl, rfl, fun _ => rfl⟩

theorem Alike.symm (alike : Alike s t) : Alike t s :=
  ⟨alike.settings.symm, alike.committed.symm, alike.openId.symm, alike.nextSection.symm,
    alike.changes.symm, fun view => (alike.seen view).symm⟩

theorem Alike.free_eq (alike : Alike s t) : s.free = t.free := by
  rw [Bool.eq_iff_iff, free_iff, free_iff, alike.openId]

/-- There is only one way to have no open section. -/
theorem Alike.eq_of_free (alike : Alike s t) (free : s.free = true) : s = t := by
  have none := free_iff.mp free
  have none' : t.openId = Option.none := alike.openId ▸ none
  obtain ⟨settings, committed, opened, nextSection, changes⟩ := s
  obtain ⟨settings', committed', opened', nextSection', changes'⟩ := t
  obtain rfl : opened = Option.none := Option.map_eq_none_iff.mp none
  obtain rfl : opened' = Option.none := Option.map_eq_none_iff.mp none'
  obtain ⟨rfl, rfl, -, rfl, rfl, -⟩ := alike
  rfl

/-- An open section shows what its copy holds, or else what is committed. -/
theorem alike_inside {id : SectionId} {copy copy' : Option Contents} (alike : Alike s t)
    (same : copy.getD s.committed = copy'.getD t.committed) :
    Alike { s with opened := some ⟨id, copy⟩ } { t with opened := some ⟨id, copy'⟩ } := by
  refine ⟨alike.settings, alike.committed, rfl, alike.nextSection, alike.changes, ?_⟩
  rintro (_ | other)
  · exact alike.committed
  · by_cases own : id = other
    · subst own
      rw [seen_opened, seen_opened, same]
    · rw [seen_of_not_open (by simpa [openId] using own),
        seen_of_not_open (by simpa [openId] using own)]
      exact alike.committed

/-- Where no section is left open, only the committed contents are to be seen. -/
theorem alike_closed {c d : Contents} (alike : Alike s t) (same : c = d) :
    Alike { s with committed := c, opened := none } { t with committed := d, opened := none } := by
  refine ⟨alike.settings, same, rfl, alike.nextSection, alike.changes, ?_⟩
  rintro (_ | id)
  · exact same
  · exact same

/-- What happens at a store can happen at one that shows the same, with the same answer. -/
theorem Alike.step (alike : Alike s t) (step : Step s x s') :
    ∃ t', Step t x t' ∧ Alike s' t' := by
  cases step with
  | begin result =>
    cases free : s.free with
    | true =>
      obtain rfl := alike.eq_of_free free
      exact ⟨s', .begin result, alike_self s'⟩
    | false =>
      have taken : t.free = false := alike.free_eq ▸ free
      rw [Store.begin, free] at result
      cases result
      refine ⟨t, .begin ?_, alike⟩
      rw [Store.begin, taken, alike.settings]
      rfl
  | @inside _ id q reply opened result =>
    have opened' : t.openId = some id := alike.openId ▸ opened
    obtain ⟨copy, request, after⟩ := request_inside opened q
    obtain ⟨copy', request', after'⟩ := request_inside opened' q
    rw [request] at result
    cases result
    refine ⟨{ t with opened := some ⟨id, copy'⟩ }, .inside opened' ?_, alike_inside alike ?_⟩
    · rw [request', alike.seen]
    · rw [after, after', alike.seen]
  | @commit id opened =>
    have opened' : t.openId = some id := alike.openId ▸ opened
    refine ⟨_, .commit opened', ?_⟩
    rw [commit_eq opened, commit_eq opened']
    exact alike_closed alike (alike.seen (some id))
  | rollback opened =>
    exact ⟨_, .rollback (alike.openId ▸ opened), alike_closed alike alike.committed⟩
  | drop opened => exact ⟨_, .drop (alike.openId ▸ opened), alike_closed alike alike.committed⟩
  | @outside _ q reply result =>
    cases free : s.free with
    | true =>
      obtain rfl := alike.eq_of_free free
      exact ⟨s', .outside result, alike_self s'⟩
    | false =>
      cases write : q.isWrite with
      | true =>
        have taken : t.free = false := alike.free_eq ▸ free
        rw [request_refused write free] at result
        cases result
        exact ⟨t, .outside (by rw [request_refused write taken, alike.settings]), alike⟩
      | false =>
        rw [request_read write] at result
        cases result
        exact ⟨t, .outside (by rw [request_read write, alike.seen]), alike⟩
  | @page _ view q reply paged result =>
    rw [request_read (Request.not_isWrite paged)] at result
    cases result
    exact ⟨t, .page paged (by rw [request_read (Request.not_isWrite paged), alike.seen]), alike⟩

theorem Alike.run (alike : Alike s t) (run : Run s h u) : ∃ v, Run t h v ∧ Alike u v := by
  induction run with
  | nil => exact ⟨t, .nil, alike⟩
  | snoc _ step ih =>
    obtain ⟨v, before, alike⟩ := ih
    obtain ⟨v', step', alike'⟩ := alike.step step
    exact ⟨v', before.snoc step', alike'⟩

/-- Whatever happens at either store can happen at the other one, with the same answers and in view
of the same contents. -/
def Indistinct (s t : Store) : Prop :=
  ∀ h, (∀ u, Run s h u → ∃ v, Run t h v ∧ ∀ view, u.seen view = v.seen view) ∧
    ∀ v, Run t h v → ∃ u, Run s h u ∧ ∀ view, u.seen view = v.seen view

theorem Alike.indistinct (alike : Alike s t) : Indistinct s t := by
  intro h
  constructor
  · intro u run
    obtain ⟨v, run', alike'⟩ := alike.run run
    exact ⟨v, run', alike'.seen⟩
  · intro v run
    obtain ⟨u, run', alike'⟩ := alike.symm.run run
    exact ⟨u, run', alike'.symm.seen⟩

/-! ## 3. Failed requests -/

/-- Why a request fails: a section is open in its way, it has a task that clashes, or the task whose
state it sets is not stored. -/
inductive Refuses (s : Store) : View → Request → Failure → Prop
  | locked {q : Request} {id : SectionId} : q.isWrite = true → s.openId = some id →
      Refuses s none q (.lockTimeout s.settings.lockTimeout)
  | duplicate {view : View} {batch : List Task} {id : TaskId} :
      (s.seen view).FirstClash batch id → Refuses s view (.queue batch) (.duplicateTask id)
  | missing {view : View} {task : Task} {state : TaskState} :
      (s.seen view).tasks.get? task.id = none →
      Refuses s view (.setState task state) (.taskNotFound task.id)

/-- What fails in the contents that a view shows. -/
theorem answer_error {view : View} {q : Request} {failure : Failure}
    (failed : ((s.seen view).answer q).1 = .error failure) : s.Refuses view q failure := by
  cases q with
  | queue batch =>
    rcases Contents.answer_queue (s.seen view) batch with
      ⟨id, first, refused⟩ | ⟨-, d, -, queued⟩
    · rw [refused] at failed
      cases failed
      exact .duplicate first
    · rw [queued] at failed
      cases failed
  | setState task state =>
    simp only [Contents.answer, Contents.setState] at failed
    cases found : (s.seen view).tasks.get? task.id with
    | none =>
      rw [found] at failed
      cases failed
      exact .missing found
    | some stored =>
      rw [found] at failed
      cases failed
  | _ => cases failed

/-- Writing what a view shows already makes no difference, though it may make a copy. -/
theorem alike_written (s : Store) (view : View) : Alike s (s.written view (s.seen view)) := by
  unfold written
  split
  · next id opened stored =>
    split
    · next own =>
      subst own
      have same : s = { s with opened := some ⟨opened.id, opened.copy⟩ } := by simp [← stored]
      have shown : s.seen (some opened.id) = opened.copy.getD s.committed := by
        simp [seen, copyOf, stored]
      have alike : Alike { s with opened := some ⟨opened.id, opened.copy⟩ }
          { s with opened := some ⟨opened.id, some (s.seen (some opened.id))⟩ } :=
        alike_inside (alike_self s) shown.symm
      rwa [← same] at alike
    · exact alike_self s
  · exact alike_self s
  · exact alike_self s

theorem request_error {view : View} {q : Request} {failure : Failure}
    (failed : (s.request view q).1 = .error failure) :
    s.Refuses view q failure ∧ Alike s (s.request view q).2 := by
  unfold request at failed ⊢
  split at failed
  · next waits =>
    rw [if_pos waits]
    simp only [Bool.and_eq_true, Option.isNone_iff_eq_none, Bool.not_eq_true'] at waits
    obtain ⟨⟨write, rfl⟩, taken⟩ := waits
    cases failed
    obtain ⟨id, opened⟩ : ∃ id, s.openId = some id := by
      rw [← Option.ne_none_iff_exists', ne_eq, ← free_iff, taken]
      exact Bool.false_ne_true
    exact ⟨.locked write opened, alike_self s⟩
  · next goes =>
    rw [if_neg goes]
    refine ⟨answer_error failed, ?_⟩
    show Alike s (if q.isWrite then s.written view ((s.seen view).answer q).2 else s)
    rw [Contents.answer_error failed]
    split
    · exact alike_written s view
    · exact alike_self s

/-! ## 4. Runs -/

/-- The requests that made what a view shows, if it is that of the open section, or none is open. -/
def History.requests (h : History) : View → List Request
  | none => h.serial
  | some id => (h.untilBegin id).serial ++ h.calls id

theorem Run.seen_eq (run : Run (.new settings) h s) :
    s.seen s.openId = Contents.empty.apply (h.requests s.openId) := by
  have tracks := tracks_run rfl run
  cases opened : s.openId with
  | none => exact tracks.committed
  | some id =>
    rw [tracks.alone id opened, History.requests, Contents.apply_append]
    rfl

/-- A request made where nothing is in the way is answered from what is seen there, and changes
that. -/
theorem request_here (s : Store) (q : Request) :
    (s.request s.openId q).1 = ((s.seen s.openId).answer q).1 ∧
      (s.request s.openId q).2.seen s.openId = ((s.seen s.openId).answer q).2 := by
  cases opened : s.openId with
  | none =>
    rw [request_outside fun _ => free_iff.mpr opened]
    exact ⟨rfl, rfl⟩
  | some id =>
    obtain ⟨copy, request, after⟩ := request_inside opened q
    rw [request]
    exact ⟨rfl, (seen_opened copy).trans after⟩

/-- A batch given where nothing is in the way is refused, or is what the view shows then. -/
theorem request_queue (batch : List Task) :
    (∃ id, (s.seen s.openId).FirstClash batch id ∧
        (s.request s.openId (.queue batch)).1 = .error (.duplicateTask id)) ∨
      (s.seen s.openId).Accepts batch ∧ (s.request s.openId (.queue batch)).1 = .ok () ∧
        (s.seen s.openId).Queues batch ((s.request s.openId (.queue batch)).2.seen s.openId) := by
  obtain ⟨answered, left⟩ := request_here s (.queue batch)
  rw [answered, left]
  rcases Contents.answer_queue (s.seen s.openId) batch with
    ⟨id, first, refused⟩ | ⟨accepts, d, queues, queued⟩
  · rw [refused]
    exact .inl ⟨id, first, rfl⟩
  · rw [queued]
    exact .inr ⟨accepts, rfl, queues⟩

/-- A request that fails in a run leaves a store that nobody can tell from the one it found. A batch
from outside finds an open section in its way; given where nothing is in the way it fails just if a
task of it clashes, for the first such task, and otherwise its tasks are stored, with numbers one
after the other and greater than all that were given out where it is stored. -/
theorem Run.refused_or_queued (run : Run (.new settings) h s) :
    (∀ view q failure, (s.request view q).1 = .error failure →
      s.Refuses view q failure ∧ s.Indistinct (s.request view q).2) ∧
    ∀ batch,
      (s.openId ≠ none →
        (s.request none (.queue batch)).1 = .error (.lockTimeout settings.lockTimeout)) ∧
      ((∃ failure, (s.request s.openId (.queue batch)).1 = .error failure) ↔
        ∃ earlier task later, batch = earlier ++ task :: later ∧
          (s.seen s.openId).Clashes earlier task) ∧
      (∀ failure, (s.request s.openId (.queue batch)).1 = .error failure →
        ∃ id, failure = .duplicateTask id ∧ (s.seen s.openId).FirstClash batch id) ∧
      ((s.request s.openId (.queue batch)).1 = .ok () →
        (s.seen s.openId).Queues batch ((s.request s.openId (.queue batch)).2.seen s.openId) ∧
        ∀ made rest, h.requests s.openId = made ++ rest →
          ∀ id record, (Contents.empty.apply made).tasks.get? id = some record →
            record.order < (s.seen s.openId).nextOrder) := by
  refine ⟨fun view q failure failed => ?_, fun batch => ⟨fun opened => ?_, ?_⟩⟩
  · obtain ⟨refuses, alike⟩ := request_error failed
    exact ⟨refuses, alike.indistinct⟩
  · have taken : s.free = false := by
      rw [← Bool.not_eq_true, free_iff]
      exact opened
    rw [request_refused rfl taken, (tracks_run rfl run).settings]
    rfl
  have earlier : ∀ made rest, h.requests s.openId = made ++ rest →
      ∀ id record, (Contents.empty.apply made).tasks.get? id = some record →
        record.order < (s.seen s.openId).nextOrder := by
    intro made rest split id record stored
    rw [run.seen_eq, split]
    exact Contents.order_lt_next stored
  rcases request_queue (s := s) batch with ⟨id, first, refused⟩ | ⟨accepts, queued, queues⟩
  · rw [refused]
    refine ⟨⟨fun _ => ?_, fun _ => ⟨_, rfl⟩⟩, ?_, nofun⟩
    · obtain ⟨front, task, back, split, -, clash, -⟩ := first
      exact ⟨front, task, back, split, clash⟩
    · rintro failure ⟨⟩
      exact ⟨id, rfl, first⟩
  · rw [queued]
    refine ⟨⟨nofun, ?_⟩, nofun, fun _ => ⟨queues, earlier⟩⟩
    rintro ⟨front, task, back, split, clash⟩
    exact absurd clash (accepts front task back split)

/-- The first write of a section fails and makes a copy all the same. A batch with a repetition is
refused for it, and without it gets the numbers that are next. -/
theorem Run.refused_or_queued_first_write :
    let task (n : Nat) : Task := .new (.ofNat n) 0 "t" .null
    let start : Request := .setState (task 1) .running
    ∃ h s, Run (.new .inMemory) h s ∧
      (s.request (some 0) start).1 = .error (.taskNotFound (.ofNat 1)) ∧
      s.copyOf 0 = none ∧ (s.request (some 0) start).2.copyOf 0 ≠ none ∧
      s.Indistinct (s.request (some 0) start).2 ∧
      (s.seen (some 0)).FirstClash [task 1, task 2, task 1, task 2] (.ofNat 1) ∧
      ((s.request (some 0) (.queue [task 1, task 2])).2.seen (some 0)).tasks.get? (.ofNat 2) =
        some { task 2 with order := 2, state := .queued } := by
  intro task start
  have run := Run.nil.snoc (Step.begin (s := .new .inMemory) rfl)
  obtain ⟨failures, batches⟩ := Run.refused_or_queued run
  obtain ⟨-, -, refused, -⟩ := batches [task 1, task 2, task 1, task 2]
  obtain ⟨id, same, first⟩ := refused (.duplicateTask (.ofNat 1)) rfl
  cases same
  obtain ⟨-, -, -, queued⟩ := batches [task 1, task 2]
  obtain ⟨queues, -⟩ := queued rfl
  refine ⟨_, _, run, rfl, rfl, Option.some_ne_none _, (failures (some 0) start _ rfl).2, first, ?_⟩
  exact queues.stored [task 1] (task 2) [] rfl

end Store

end TaskQueue
