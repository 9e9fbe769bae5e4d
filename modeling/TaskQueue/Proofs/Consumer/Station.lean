import TaskQueue.Proofs.Consumer.Steps
import TaskQueue.Proofs.History

/-!
# Runs of a consumer

A station is a consumer with all that goes on in it. Its works take their steps in any order and at
any time, while others use the network as they like, and the application connects, gives commands
and closes.

Results:
1. `Step.happens`: what a step of a station does to the consumer, and `Step.works`, what it does to
   the works.
2. `Run.follow`: a run that goes on by given cues.
-/

namespace TaskQueue

/-- A consumer with all that goes on in it. -/
structure Station where
  outpost : Outpost
  works : List Work

namespace Station

/-- The consumer of a station. -/
def consumer (f : Station) : Consumer :=
  f.outpost.consumer

/-- A station in which the work between others has taken a step. -/
def after (front back : List Work) (turn : Turn Outpost Work) : Station :=
  ⟨turn.state, front ++ turn.self.toList ++ back ++ turn.started⟩

/-- One step. -/
inductive Step : Station → Incident → Station → Prop
  | work {o : Outpost} {front back : List Work} {w : Work} {turn : Turn Outpost Work} {now : Nat} :
      w.step now o = some turn →
      Step ⟨o, front ++ w :: back⟩ (turn.incident (some w) w.given (w.written o) o.consumer)
        (after front back turn)
  /-- A connection fails before all of its handshake was sent. -/
  | fail {o : Outpost} {front back : List Work} {w : Work} {turn : Turn Outpost Work} {now : Nat}
      {sent : List Command} {d : Consumer} {network : Network} :
      o.consumer.Greets false sent d → w.failing now ⟨network, d⟩ = some turn →
      Step ⟨o, front ++ w :: back⟩ (turn.incident (some w) [] sent o.consumer)
        (after front back turn)
  /-- A reader had found that nothing more comes, before it was told to stop. -/
  | lose {o : Outpost} {front back : List Work} {id : ConnectionId} {generation : Nat} :
      Step ⟨o, front ++ .reading id generation :: back⟩
        ((Work.losing o id generation).incident (some (.reading id generation)) [] [] o.consumer)
        (after front back (Work.losing o id generation))
  /-- The application gives a command. -/
  | give {o : Outpost} {works : List Work} {command : Command} : command.isBufferable = true →
      Step ⟨o, works⟩ ⟨none, [command], Outpost.passed (o.send command).1 command, o.consumer,
        (o.send command).2.1.consumer, none, (o.send command).2.2⟩
        ⟨(o.send command).2.1, works ++ (o.send command).2.2⟩
  /-- The application connects or closes. -/
  | call {o : Outpost} {works : List Work} {w : Work} : w = .connecting ∨ w = .closing →
      Step ⟨o, works⟩ ⟨none, [], [], o.consumer, o.consumer, none, [w]⟩ ⟨o, works ++ [w]⟩
  | outside {o : Outpost} {works : List Work} {network : Network} {handler : Task → Reaction}
      {busy releases : Nat} :
      Step ⟨o, works⟩
        ⟨none, [], [], o.consumer, { o.consumer with handler, busy, releases }, none, []⟩
        ⟨⟨network, { o.consumer with handler, busy, releases }⟩, works⟩

/-- Any number of steps, the latest last. -/
inductive Run (start : Station) : List Incident → Station → Prop
  | nil : Run start [] start
  | snoc {h : List Incident} {f g : Station} {x : Incident} : Run start h f → Step f x g →
      Run start (h ++ [x]) g

/-- A consumer that was not used yet. -/
structure New (f : Station) : Prop where
  consumer : ∃ settings handler, f.consumer = .new settings handler
  works : f.works = []

variable {start f g : Station} {h later : List Incident} {x : Incident}

/-! ## 1. Steps -/

theorem Step.before (step : Step f x g) : x.before = f.consumer := by
  cases step <;> rfl

theorem Step.after (step : Step f x g) : x.after = g.consumer := by
  cases step <;> rfl

theorem Step.happens (step : Step f x g) : Happens x := by
  cases step with
  | work step => exact Work.step_happens step
  | fail greets fails => exact Work.failing_happens fails greets
  | lose => exact Work.losing_happens _ _ _
  | give => exact Outpost.send_happens rfl
  | call which =>
    rcases which with rfl | rfl
    · exact .still rfl nofun rfl (by simp) (.refl _)
    · exact .still rfl nofun rfl (by simp) (.refl _)
  | outside => exact .still rfl nofun rfl (by simp) ⟨rfl, rfl, rfl, rfl, rfl, rfl⟩

theorem Step.works (step : Step f x g) : ∃ front back,
    f.works = front ++ x.work.toList ++ back ∧
      g.works = front ++ x.became.toList ++ back ++ x.begun := by
  cases step with
  | @work o front back => exact ⟨front, back, by simp [Turn.incident], rfl⟩
  | @fail o front back => exact ⟨front, back, by simp [Turn.incident], rfl⟩
  | @lose o front back => exact ⟨front, back, by simp [Turn.incident], rfl⟩
  | @give o works => exact ⟨works, [], by simp, by simp⟩
  | @call o works => exact ⟨works, [], by simp, by simp⟩
  | @outside o works => exact ⟨works, [], by simp, by simp⟩

/-! ## 2. Runs -/

theorem Run.append (run : Run start h f) (more : Run f later g) : Run start (h ++ later) g := by
  induction more with
  | nil => rwa [List.append_nil]
  | snoc _ step ih =>
    rw [← List.append_assoc]
    exact ih.snoc step

/-- What a run can go on with: the work at a place takes a step, the application gives a command,
connects or closes, or the network changes. -/
inductive Cue
  | work (place : Nat)
  | give (command : Command)
  | connect
  | close
  | network (change : Network → Network)

/-- A work begins by a call of the application. -/
def begin (f : Station) (w : Work) : Incident × Station :=
  (⟨none, [], [], f.consumer, f.consumer, none, [w]⟩, ⟨f.outpost, f.works ++ [w]⟩)

/-- The step of a cue. -/
def act (now : Nat) (f : Station) : Cue → Option (Incident × Station)
  | .work place => do
    let w ← f.works[place]?
    let turn ← w.step now f.outpost
    return (turn.incident (some w) w.given (w.written f.outpost) f.consumer,
      Station.after (f.works.take place) (f.works.drop (place + 1)) turn)
  | .give command =>
    if command.isBufferable then
      let (result, o, works) := f.outpost.send command
      some (⟨none, [command], Outpost.passed result command, f.consumer, o.consumer, none, works⟩,
        ⟨o, f.works ++ works⟩)
    else none
  | .connect => some (f.begin .connecting)
  | .close => some (f.begin .closing)
  | .network change =>
    some (⟨none, [], [], f.consumer, f.consumer, none, []⟩,
      ⟨⟨change f.outpost.network, f.consumer⟩, f.works⟩)

/-- The steps of some cues, one after the other, at one point in time. -/
def follow (now : Nat) : List Cue → Station → Option (List Incident × Station)
  | [], f => some ([], f)
  | cue :: cues, f => do
    let (x, g) ← f.act now cue
    let (later, g) ← follow now cues g
    return (x :: later, g)

/-- The works around the one at a place. -/
theorem works_around {place : Nat} {w : Work} (found : f.works[place]? = some w) :
    f.works.take place ++ w :: f.works.drop (place + 1) = f.works := by
  obtain ⟨inside, own⟩ := List.getElem?_eq_some_iff.mp found
  rw [← own, ← List.drop_eq_getElem_cons inside, List.take_append_drop]

theorem Step.act {now : Nat} {cue : Cue} (acts : f.act now cue = some (x, g)) : Step f x g := by
  cases cue with
  | work place =>
    simp only [Station.act, Option.bind_eq_bind, Option.bind_eq_some_iff, Option.pure_def,
      Option.some.injEq, Prod.mk.injEq] at acts
    obtain ⟨w, found, turn, step, rfl, rfl⟩ := acts
    have went := @Step.work f.outpost (f.works.take place) (f.works.drop (place + 1)) _ _ _ step
    rwa [works_around found] at went
  | give command =>
    simp only [Station.act, Option.ite_none_right_eq_some] at acts
    obtain ⟨may, ⟨⟩⟩ := acts
    exact .give may
  | connect =>
    cases acts
    exact .call (.inl rfl)
  | close =>
    cases acts
    exact .call (.inr rfl)
  | network change =>
    cases acts
    exact .outside

theorem Step.get {now : Nat} {cue : Cue} (acts : (f.act now cue).isSome = true) :
    Step f ((f.act now cue).get acts).1 ((f.act now cue).get acts).2 :=
  .act (Option.some_get acts).symm

theorem Run.follow {now : Nat} {cues : List Cue} (follows : f.follow now cues = some (h, g)) :
    Run f h g := by
  induction cues generalizing f h with
  | nil =>
    cases follows
    exact .nil
  | cons cue cues ih =>
    simp only [Station.follow, Option.bind_eq_bind, Option.bind_eq_some_iff, Option.pure_def,
      Option.some.injEq, Prod.mk.injEq] at follows
    obtain ⟨⟨x, middle⟩, acts, ⟨later, last⟩, rest, rfl, rfl⟩ := follows
    exact (Run.nil.snoc (.act acts)).append (ih rest)

theorem Run.get {now : Nat} {cues : List Cue} (follows : (f.follow now cues).isSome = true) :
    Run f ((f.follow now cues).get follows).1 ((f.follow now cues).get follows).2 :=
  .follow (Option.some_get follows).symm

end Station

end TaskQueue
