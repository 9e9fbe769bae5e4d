import TaskQueue.Proofs.History
import TaskQueue.Proofs.Producer.Ownership
import TaskQueue.Proofs.Store.Index

/-!
# Runs of a producer

A hall is a service with all its duties. Duties take their steps in any order and at any time, while
others use the engine and the network as they like. Each step is recorded as a moment, with the
service before and after it.

Results:
1. `Run.follow`: a run that goes on with the duties at given places.
2. `Run.heldOpen`: only open sessions hold tasks.
3. `Run.holds_iff`: a session that did not hold a task holds it if and only if it took it at some
   moment, and has held it since.
-/

namespace TaskQueue

/-- A step of a duty, or of the world outside. -/
structure Moment where
  duty : Option Duty
  before : Service
  after : Service

/-- A service with all that goes on in it. -/
structure Hall where
  service : Service
  duties : List Duty

namespace Hall

/-- One step. Others may change the stored tasks, write to the network and hang up, and end the
service. -/
inductive Step : Hall → Moment → Hall → Prop
  | duty {v : Service} {front back : List Duty} {d : Duty} {turn : Turn Service Duty}
      {wall : UInt64} {now : Nat} : d.step wall now v = some turn →
      Step ⟨v, front ++ d :: back⟩ ⟨some d, v, turn.state⟩
        ⟨turn.state, front ++ turn.self.toList ++ back ++ turn.started⟩
  | outside {v w : Service} {duties : List Duty} {shutdown : Bool} :
      w.engine.store.committed.WellFormed → w.producer = { v.producer with shutdown } →
      Step ⟨v, duties⟩ ⟨none, v, w⟩ ⟨w, duties⟩

/-- Any number of steps, the latest last. -/
inductive Run (start : Hall) : List Moment → Hall → Prop
  | nil : Run start [] start
  | snoc {h : List Moment} {f g : Hall} {x : Moment} : Run start h f → Step f x g →
      Run start (h ++ [x]) g

/-- A producer that begins to accept connections. -/
structure New (f : Hall) : Prop where
  producer : ∃ settings address, f.service.producer = .new settings address
  contents : f.service.engine.store.committed.WellFormed
  duties : f.duties = [.accepting]

variable {start f g : Hall} {h past later : List Moment} {x : Moment} {s : SessionId} {id : TaskId}

/-! ## 1. Parts of runs -/

theorem Step.before (step : Step f x g) : x.before = f.service := by
  cases step <;> rfl

theorem Step.after (step : Step f x g) : x.after = g.service := by
  cases step <;> rfl

/-- A run up to a moment, that moment, and what follows. -/
theorem Run.split (run : Run start (past ++ x :: later) f) :
    ∃ g g', Run start past g ∧ Step g x g' ∧ Run g' later f := by
  generalize whole : past ++ x :: later = h at run
  induction run generalizing later with
  | nil => simp at whole
  | @snoc h f g last earlier step ih =>
    rcases snoc_eq_append_cons.mp whole.symm with ⟨rfl, rfl, rfl⟩ | ⟨front, rfl, rfl⟩
    · exact ⟨f, g, earlier, step, .nil⟩
    · obtain ⟨middle, middle', before, now, after⟩ := ih rfl
      exact ⟨middle, middle', before, now, after.snoc step⟩

theorem Run.append {later : List Moment} (run : Run start h f) (more : Run f later g) :
    Run start (h ++ later) g := by
  induction more with
  | nil => rwa [List.append_nil]
  | snoc _ step ih =>
    rw [← List.append_assoc]
    exact ih.snoc step

/-- The step of the duty at a place. -/
def turn? (wall : UInt64) (now : Nat) (f : Hall) (place : Nat) : Option (Moment × Hall) := do
  let d ← f.duties[place]?
  let turn ← d.step wall now f.service
  return (⟨some d, f.service, turn.state⟩, ⟨turn.state,
    f.duties.take place ++ turn.self.toList ++ f.duties.drop (place + 1) ++ turn.started⟩)

/-- The steps of the duties at some places, one after the other at one point in time. -/
def follow (wall : UInt64) (now : Nat) : List Nat → Hall → Option (List Moment × Hall)
  | [], f => some ([], f)
  | place :: places, f => do
    let (x, g) ← f.turn? wall now place
    let (later, g) ← follow wall now places g
    return (x :: later, g)

theorem Step.turn {wall : UInt64} {now place : Nat} (turn : f.turn? wall now place = some (x, g)) :
    Step f x g := by
  simp only [turn?, Option.bind_eq_bind, Option.bind_eq_some_iff, Option.pure_def,
    Option.some.injEq, Prod.mk.injEq] at turn
  obtain ⟨d, found, turn, step, rfl, rfl⟩ := turn
  obtain ⟨inside, own⟩ := List.getElem?_eq_some_iff.mp found
  have whole : f.duties = f.duties.take place ++ d :: f.duties.drop (place + 1) := by
    rw [← own, ← List.drop_eq_getElem_cons inside, List.take_append_drop]
  have went := @Step.duty f.service (f.duties.take place) (f.duties.drop (place + 1)) _ _ _ _ step
  rwa [← whole] at went

theorem Run.follow {wall : UInt64} {now : Nat} {places : List Nat}
    (follows : f.follow wall now places = some (h, g)) : Run f h g := by
  induction places generalizing f h with
  | nil =>
    cases follows
    exact .nil
  | cons place places ih =>
    simp only [Hall.follow, Option.bind_eq_bind, Option.bind_eq_some_iff, Option.pure_def,
      Option.some.injEq, Prod.mk.injEq] at follows
    obtain ⟨⟨x, middle⟩, turn, ⟨later, last⟩, rest, rfl, rfl⟩ := follows
    exact (Run.nil.snoc (.turn turn)).append (ih rest)

/-! ## 2. Open sessions -/

theorem Step.heldOpen (step : Step f x g) (held : Duty.HeldOpen f.service.producer) :
    Duty.HeldOpen g.service.producer := by
  cases step with
  | duty step => exact (Duty.step_move step).keeps_open held
  | outside _ same =>
    intro id s holds
    simp only [same] at holds ⊢
    exact held id s holds

theorem Run.heldOpen (new : New start) (run : Run start h f) :
    Duty.HeldOpen f.service.producer := by
  induction run with
  | nil =>
    obtain ⟨settings, address, fresh⟩ := new.producer
    rw [fresh]
    exact nofun
  | snoc _ step ih => exact step.heldOpen ih

/-! ## 3. Taking a task -/

/-- The moment at which a session comes to hold a task: it recovers it, or it is delivered to it. -/
def Taken (x : Moment) (s : SessionId) (id : TaskId) : Prop :=
  (∃ d, x.duty = some d ∧ d.Takes s id) ∧ x.before.producer.holder id ≠ some s

/-- A session took a task at some moment, and has held it since. -/
def TakenSince (h : List Moment) (s : SessionId) (id : TaskId) : Prop :=
  Since h (fun x => Taken x s id ∧ x.after.producer.holder id = some s)
    fun x => x.after.producer.holder id = some s

theorem Step.taken (step : Step f x g) (before : f.service.producer.holder id ≠ some s)
    (after : g.service.producer.holder id = some s) : Taken x s id := by
  cases step with
  | duty step => exact ⟨⟨_, rfl, ((Duty.step_move step).takes after before).1⟩, before⟩
  | outside _ same =>
    simp only [same] at after
    exact absurd after before

theorem Run.holds_iff (run : Run start h f)
    (before : start.service.producer.holder id ≠ some s) :
    f.service.producer.holder id = some s ↔ TakenSince h s id := by
  induction run with
  | nil => exact iff_of_false before since_nil
  | @snoc h f g x earlier step ih =>
    rw [TakenSince, since_snoc, step.after]
    constructor
    · intro holds
      -- It was taken at this moment, unless it was held before.
      by_cases already : f.service.producer.holder id = some s
      · exact .inr ⟨ih.mp already, holds⟩
      · exact .inl ⟨step.taken already holds, holds⟩
    · rintro (⟨-, holds⟩ | ⟨-, holds⟩)
      · exact holds
      · exact holds

end Hall

end TaskQueue
