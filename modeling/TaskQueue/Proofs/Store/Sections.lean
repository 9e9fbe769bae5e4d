import TaskQueue.Store

/-!
# What requests and programs do, inside sections and outside

`Program.exec` runs a program on contents that nobody else changes. A program in a section, or one
outside that finds no section open, does the same to what it sees (`run_inside`, `run_outside`), so
an isolated action is one change of the committed contents (`isolated_eq`).
-/

namespace TaskQueue

namespace Contents

/-- A request that is no write leaves the contents alone. -/
theorem answer_read (c : Contents) {q : Request} (read : q.isWrite = false) :
    (c.answer q).2 = c := by
  cases q <;> first | rfl | cases read

/-- A request that fails leaves the contents alone. -/
theorem answer_error {c : Contents} {q : Request} {failure : Failure}
    (failed : (c.answer q).1 = .error failure) : (c.answer q).2 = c := by
  cases q with
  | queue batch =>
    simp only [answer] at failed ⊢
    split at failed
    · cases failed
    · rfl
  | setState task state =>
    simp only [answer] at failed ⊢
    split at failed
    · cases failed
    · rfl
  | _ => cases failed

end Contents

namespace Program

/-- The result of a program and the contents after it, when nobody else changes them. -/
def exec {α : Type} : Program α → Contents → α × Contents
  | .done result, c => (result, c)
  | .ask q next, c => (next (c.answer q).1).exec (c.answer q).2

@[simp] theorem exec_pure {α : Type} (a : α) (c : Contents) :
    (pure a : Program α).exec c = (a, c) :=
  rfl

@[simp] theorem exec_done {α : Type} (a : α) (c : Contents) : (Program.done a).exec c = (a, c) :=
  rfl

@[simp] theorem exec_request (q : Request) (c : Contents) : (request q).exec c = c.answer q :=
  rfl

@[simp] theorem exec_bind {α β : Type} (p : Program α) (f : α → Program β) (c : Contents) :
    (p >>= f).exec c = (f (p.exec c).1).exec (p.exec c).2 := by
  induction p generalizing c with
  | done a => rfl
  | ask q next ih => exact ih (c.answer q).1 (c.answer q).2

/-- A program that makes no writes. -/
def Reads {α : Type} : Program α → Prop
  | .done _ => True
  | .ask q next => q.isWrite = false ∧ ∀ reply, (next reply).Reads

theorem Reads.bind {α β : Type} {p : Program α} {f : α → Program β} (first : p.Reads)
    (rest : ∀ a, (f a).Reads) : (p >>= f).Reads := by
  induction p with
  | done a => exact rest a
  | ask q next ih => exact ⟨first.1, fun reply => ih reply (first.2 reply)⟩

end Program

namespace Action

variable {α β : Type}

@[simp] theorem exec_pure (a : α) (c : Contents) : (pure a : Action α).run.exec c = (.ok a, c) :=
  rfl

@[simp] theorem exec_request (q : Request) (c : Contents) :
    (request q).run.exec c = c.answer q :=
  rfl

/-- An action goes on after one that succeeds. -/
theorem exec_bind_ok {x : Action α} {f : α → Action β} {c d : Contents} {a : α}
    (first : x.run.exec c = (.ok a, d)) : (x >>= f).run.exec c = (f a).run.exec d := by
  have run : (x >>= f).run = x.run >>= fun r => ExceptT.bindCont f r := rfl
  rw [run, Program.exec_bind, first]
  rfl

/-- An action ends with one that fails. -/
theorem exec_bind_error {x : Action α} {f : α → Action β} {c d : Contents} {failure : Failure}
    (first : x.run.exec c = (.error failure, d)) : (x >>= f).run.exec c = (.error failure, d) := by
  have run : (x >>= f).run = x.run >>= fun r => ExceptT.bindCont f r := rfl
  rw [run, Program.exec_bind, first]
  rfl

/-- A request that is answered comes first. -/
theorem exec_request_bind {q : Request} {f : q.Reply → Action β} {c d : Contents} {reply : q.Reply}
    (answered : c.answer q = (.ok reply, d)) :
    (request q >>= f).run.exec c = (f reply).run.exec d :=
  exec_bind_ok answered

end Action

namespace Store

variable {s : Store} {id : SectionId}

/-- The number of the open section. -/
def openId (s : Store) : Option SectionId :=
  s.opened.map Section.id

theorem free_iff : s.free = true ↔ s.openId = none := by
  simp [free, openId]

theorem openId_eq_some : s.openId = some id ↔ ∃ copy, s.opened = some ⟨id, copy⟩ := by
  simp only [openId, Option.map_eq_some_iff]
  constructor
  · rintro ⟨⟨_, copy⟩, opened, rfl⟩
    exact ⟨copy, opened⟩
  · rintro ⟨copy, opened⟩
    exact ⟨_, opened, rfl⟩

@[simp] theorem seen_opened (copy : Option Contents) :
    { s with opened := some ⟨id, copy⟩ }.seen (some id) = copy.getD s.committed := by
  simp [seen, copyOf]

/-- A view of a section that is not open shows the committed contents. -/
theorem seen_of_not_open (ended : s.openId ≠ some id) : s.seen (some id) = s.committed := by
  simp only [seen, copyOf]
  cases opened : s.opened with
  | none => rfl
  | some other =>
    have differs : other.id ≠ id := by
      rintro rfl
      exact ended (by simp [openId, opened])
    simp [differs]

/-- Where no section is open, every view shows the committed contents. -/
theorem seen_free (free : s.free = true) (view : View) : s.seen view = s.committed := by
  cases view with
  | none => rfl
  | some id => exact seen_of_not_open (by simp [free_iff.mp free])

/-- A section leaves what it has seen last. -/
theorem commit_eq {id : SectionId} (opened : s.openId = some id) :
    s.commit = { s with committed := s.seen (some id), opened := none } := by
  obtain ⟨copy, stored⟩ := openId_eq_some.mp opened
  simp [commit, seen, copyOf, stored]

/-- A request that is no write is answered from what its view shows. -/
theorem request_read {q : Request} (read : q.isWrite = false) (view : View) :
    s.request view q = (((s.seen view).answer q).1, s) := by
  simp [request, answer, read]

/-- A request in the open section is answered from what the section sees. -/
theorem request_inside (opened : s.openId = some id) (q : Request) :
    ∃ copy, s.request (some id) q =
        (((s.seen (some id)).answer q).1, { s with opened := some ⟨id, copy⟩ }) ∧
      copy.getD s.committed = ((s.seen (some id)).answer q).2 := by
  obtain ⟨copy, stored⟩ := openId_eq_some.mp opened
  have seen : s.seen (some id) = copy.getD s.committed := by simp [Store.seen, copyOf, stored]
  have request : s.request (some id) q = s.answer (some id) q := by simp [Store.request]
  simp only [request, Store.answer, seen]
  cases write : q.isWrite with
  | true => exact ⟨some ((copy.getD s.committed).answer q).2, by simp [written, stored], rfl⟩
  | false =>
    refine ⟨copy, ?_, (Contents.answer_read _ write).symm⟩
    simp [← stored]

/-- A request outside sections is answered from the committed contents, unless it is a write that
finds a section open. -/
theorem request_outside {q : Request} (enabled : q.isWrite = true → s.free = true) :
    s.request none q =
      ((s.committed.answer q).1, { s with committed := (s.committed.answer q).2 }) := by
  cases write : q.isWrite with
  | true => simp [request, answer, seen, written, write, enabled write]
  | false => simp [request, answer, seen, write, Contents.answer_read _ write]

/-- A write outside sections that finds one open changes nothing. -/
theorem request_refused {q : Request} (write : q.isWrite = true) (taken : s.free = false) :
    s.request none q = (.error (.lockTimeout s.settings.lockTimeout), s) := by
  simp [request, write, taken]

/-- Reading leaves the store as it is, from any view. -/
theorem run_reads {α : Type} {p : Program α} (reads : p.Reads) (s : Store) (view : View) :
    s.run view p = ((p.exec (s.seen view)).1, s) := by
  induction p with
  | done result => rfl
  | ask q next ih =>
    rw [run, request_read reads.1, Program.exec, Contents.answer_read _ reads.1]
    exact ih _ (reads.2 _)

theorem run_inside {α : Type} (opened : s.openId = some id) (p : Program α) :
    ∃ copy, s.run (some id) p =
        ((p.exec (s.seen (some id))).1, { s with opened := some ⟨id, copy⟩ }) ∧
      copy.getD s.committed = (p.exec (s.seen (some id))).2 := by
  induction p generalizing s with
  | done result =>
    obtain ⟨copy, stored⟩ := openId_eq_some.mp opened
    refine ⟨copy, ?_, by simp [Store.seen, copyOf, stored]⟩
    simp [run, ← stored]
  | ask q next ih =>
    obtain ⟨copy, request, after⟩ := request_inside opened q
    obtain ⟨last, rest, final⟩ := ih ((s.seen (some id)).answer q).1
      (s := { s with opened := some ⟨id, copy⟩ }) rfl
    rw [seen_opened, after] at rest final
    exact ⟨last, by rw [run, request]; exact rest, final⟩

theorem run_outside {α : Type} (free : s.free = true) (p : Program α) :
    s.run none p = ((p.exec s.committed).1, { s with committed := (p.exec s.committed).2 }) := by
  induction p generalizing s with
  | done result => rfl
  | ask q next ih =>
    rw [run, request_outside fun _ => free]
    exact ih _ (s := { s with committed := (s.committed.answer q).2 }) free

/-- A program in a section of its own is one change of the committed contents, or none if its result
is not good. -/
theorem enclose_eq {α : Type} (good : α → Bool) (p : Program α) (s : Store) :
    s.enclose good p =
      ((p.exec s.committed).1,
        { s with
          committed := if good (p.exec s.committed).1 then (p.exec s.committed).2 else s.committed
          opened := none
          nextSection := s.nextSection + 1 }) := by
  have opened : s.opening.2.openId = some s.nextSection := rfl
  obtain ⟨copy, run, after⟩ := run_inside opened p
  have seen : s.opening.2.seen (some s.nextSection) = s.committed := by
    simp [Store.seen, copyOf, opening]
  rw [seen] at run after
  have opening : s.opening = (s.nextSection, s.opening.2) := rfl
  rw [enclose, opening]
  simp only [run]
  refine Prod.ext rfl ?_
  cases good (p.exec s.committed).1 with
  | true => simpa [commit, Store.opening] using after
  | false => simp [rollback, Store.opening]

/-- An isolated action that finds no section open is one change of the committed contents, or none
if it fails. -/
theorem isolated_eq {α : Type} (free : s.free = true) (action : Action α) :
    s.isolated action =
      ((action.run.exec s.committed).1,
        { s with
          committed := if (action.run.exec s.committed).1.isOk then
            (action.run.exec s.committed).2 else s.committed
          opened := none
          nextSection := s.nextSection + 1 }) := by
  rw [isolated, if_pos free, enclose_eq]

end Store

end TaskQueue
