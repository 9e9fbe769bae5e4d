import TaskQueue.Store

/-!
Isolated changes. A change runs in a section: made outside of sections, it opens one, which commits
if the change succeeds and is rolled back if it fails; made in a section, it joins that one, and the
change that opened the section decides. So changes within a change, at any depth, wait for nothing,
and what they wrote stays when they fail and the change around them goes on.
-/

namespace TaskQueue

/-- A change: it is done with a result, makes a request, or makes a change within it, and goes on
with the answer or the result of that. -/
inductive Change : Type → Type 1
  | done {α : Type} (result : α) : Change α
  | ask {α : Type} (q : Request) (next : Except Failure q.Reply → Change α) : Change α
  | nested {α β : Type} (inner : Change β) (next : β → Change α) : Change α

namespace Change

/-- A change followed by another one. -/
def bind {α β : Type} : Change α → (α → Change β) → Change β
  | .done a, f => f a
  | .ask q next, f => .ask q fun reply => (next reply).bind f
  | .nested inner next, f => .nested inner fun result => (next result).bind f

instance : Monad Change where
  pure := .done
  bind := bind

/-- The requests of a program as a change. -/
def ofProgram {α : Type} : Program α → Change α
  | .done a => .done a
  | .ask q next => .ask q fun reply => ofProgram (next reply)

/-- The requests of a change and of those within it, as a program. -/
def flatten {α : Type} : Change α → Program α
  | .done a => .done a
  | .ask q next => .ask q fun reply => (next reply).flatten
  | .nested inner next => inner.flatten.bind fun result => (next result).flatten

/-- A change that runs in a section, as do the changes within it. -/
def run {α : Type} (id : SectionId) : Change α → Store → α × Store
  | .done result, s => (result, s)
  | .ask q next, s =>
    let (reply, s) := s.request (some id) q
    (next reply).run id s
  | .nested inner next, s =>
    let (result, s) := inner.run id s
    (next result).run id s

end Change

/-- An isolated change made from a view. `refused` is its failure when no section can be opened. -/
def Store.isolatedChange {ε α : Type} (refused : Failure → ε) (view : View)
    (change : Change (Except ε α)) (s : Store) : Except ε α × Store :=
  match view with
  | some id => change.run id s
  | none =>
    match s.begin with
    | (.error failure, s) => (.error (refused failure), s)
    | (.ok id, s) =>
      let (result, s) := change.run id s
      (result, if result.isOk then s.commit else s.rollback)

end TaskQueue
