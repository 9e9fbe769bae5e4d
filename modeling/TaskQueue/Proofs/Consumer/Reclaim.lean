import TaskQueue.Proofs.Consumer.Delivery
import TaskQueue.Proofs.Consumer.Links
import Mathlib.Data.List.Nodup

/-!
# What a consumer claims again

The first frame of a handshake claims the active tasks. A task becomes active when it arrives. It is
released when a command that settles it is written at once, or when a handshake is complete. What a
handshake writes releases nothing before all of it was written: if it fails, the next one claims the
same tasks.

Results:
1. `Greets.claims`: what a handshake writes begins with the claim.
2. `Happens.engages`: what a step does to the active tasks.
3. `Run.reclaims`: over a run, the tasks that are active and that a handshake claims.
4. `Run.reclaims_not_held`: these are not the tasks that were not settled.
-/

namespace TaskQueue

open Consumer

variable {c d : Consumer} {works : List Work} {complete : Bool} {sent : List Command} {x : Incident}
  {id : TaskId} {task : Task} {h : List Incident}

/-! ## 1. Handshakes -/

namespace Consumer

/-- A handshake fails at its first frame, or what it writes is the claim and then no other one. -/
theorem Greets.claims (greets : c.Greets complete sent d) (orderly : c.Orderly) :
    complete = false ∧ sent = [] ∨
      ∃ rest, sent = c.claims ++ rest ∧ ∀ ids, .recover ids ∉ rest := by
  obtain ⟨incomplete, nothing, -⟩ | ⟨rest, -, writes, within, -⟩ := greets.cases
  · exact .inl ⟨incomplete, nothing⟩
  · refine .inr ⟨rest, writes, fun ids member => ?_⟩
    rcases List.mem_append.mp (within member) with buffered | last
    · cases orderly.bufferable _ buffered
    · cases List.mem_singleton.mp last

theorem Greets.active (greets : c.Greets complete sent d) :
    d.active = if complete then [] else c.active := by
  obtain ⟨rfl, -, rfl⟩ | ⟨-, -, -, -, -, -, ⟨rfl, rfl⟩ | ⟨rfl, -, rfl⟩⟩ := greets.cases <;> rfl

theorem mem_receive : id ∈ (c.receive task.id).active ↔ task.id = id ∨ id ∈ c.active := by
  unfold receive
  dsimp only
  split
  · next held =>
    constructor
    · exact .inr
    · rintro (rfl | active)
      · exact held
      · exact active
  · rw [List.mem_append, List.mem_singleton, or_comm, eq_comm]

theorem mem_sent {command : Command} :
    id ∈ (c.sent command).active ↔ id ∈ c.active ∧ command.settles ≠ some id := by
  unfold sent
  split
  · next settled settles =>
    rw [List.mem_filter, decide_eq_true_eq, settles, ne_eq, ne_eq, Option.some.injEq, eq_comm]
  · next settles => simp [settles]

theorem unlinked_same (same : d = c ∨ d = c.unlink) :
    d.generation = c.generation ∧ d.active = c.active := by
  rcases same with rfl | rfl <;> exact ⟨rfl, rfl⟩

end Consumer

/-! ## 2. Steps -/

namespace Incident

/-- A step in which a task arrives. -/
def Receives (id : TaskId) (x : Incident) : Prop :=
  ∃ task, task.id = id ∧ .arriving task ∈ x.begun

/-- A step in which a command is written that settles a task. -/
def Settles (id : TaskId) (x : Incident) : Prop :=
  ∃ command ∈ x.written, command.settles = some id

/-- A step of an attempt to open a connection, as are all that write a handshake. -/
def Attempts (x : Incident) : Prop :=
  ∃ w, x.work = some w ∧ w.isAttempt = true

/-- A step in which a handshake is complete, or a command that settles a task is written without
one. -/
def Releases (id : TaskId) (x : Incident) : Prop :=
  x.Opens ∨ ¬ x.Attempts ∧ x.Settles id

theorem shut (generation : x.after.generation = x.before.generation) : ¬ x.Opens := by
  unfold Opens
  omega

theorem not_releases (generation : x.after.generation = x.before.generation)
    (written : x.Attempts ∨ x.written = []) : ¬ x.Releases id := by
  rintro (opens | ⟨other, command, member, -⟩)
  · exact shut generation opens
  · rcases written with attempts | nothing
    · exact other attempts
    · rw [nothing] at member
      cases member

end Incident

/-- What a step does to the active tasks: nothing, or a task arrives, a command is written at once,
or a handshake is complete. -/
inductive Engages (x : Incident) : Prop
  | keeps : (∀ id, ¬ x.Receives id) → (∀ id, ¬ x.Releases id) →
      x.after.active = x.before.active → Engages x
  | receives {task : Task} : x.begun = [.arriving task] → (∀ id, ¬ x.Releases id) →
      x.after.active = (x.before.receive task.id).active → Engages x
  | sends {command : Command} : x.begun = [] → x.written = [command] → ¬ x.Attempts → ¬ x.Opens →
      x.after.active = (x.before.sent command).active → Engages x
  | opens : (∀ id, ¬ x.Receives id) → x.Opens → x.after.active = [] → Engages x

theorem Consumer.Reconnects.not_arriving (reconnects : c.Reconnects d works) :
    Work.arriving task ∉ works := by
  cases reconnects with
  | idle => exact List.not_mem_nil
  | begin => simp

/-- A step in which no task arrives, no connection is opened, and nothing is written but by a
handshake. -/
theorem Engages.quiet (begun : ∀ task, .arriving task ∉ x.begun)
    (generation : x.after.generation = x.before.generation) (written : x.Attempts ∨ x.written = [])
    (active : x.after.active = x.before.active) : Engages x :=
  .keeps (fun _ ⟨task, _, member⟩ => begun task member)
    (fun _ => Incident.not_releases generation written) active

theorem Engages.of_alike (begun : ∀ task, .arriving task ∉ x.begun) (written : x.written = [])
    (alike : x.before.Alike x.after) : Engages x :=
  .quiet begun alike.generation (.inr written) alike.active

theorem Happens.engages (happens : Happens x) : Engages x := by
  cases happens with
  | still _ _ _ quiet alike => exact .of_alike quiet rfl alike
  | receives => exact .receives rfl (fun _ => Incident.not_releases rfl (.inr rfl)) rfl
  | connects _ alike => exact .of_alike (by simp) rfl alike
  | retries alike => exact .of_alike (by simp) rfl alike
  | ceases alike => exact .quiet (by simp) alike.generation (.inr rfl) alike.active
  | @fails _ _ _ _ c e d greets alike =>
    have generation : d.generation = c.generation := by rw [alike.generation, greets.same]
    exact .quiet (by simp) generation (.inl ⟨_, rfl, rfl⟩) (alike.active.trans greets.active)
  | @pauses _ _ _ _ c e d greets alike =>
    have generation : d.generation = c.generation := by rw [alike.generation, greets.same]
    exact .quiet (by simp) generation (.inl ⟨_, rfl, rfl⟩) (alike.active.trans greets.active)
  | opens greets =>
    refine .opens (by simp [Incident.Receives]) ?_ greets.active
    rw [Incident.Opens, greets.same]
    rfl
  | reopens greets =>
    refine .opens (by simp [Incident.Receives]) ?_ greets.active
    rw [Incident.Opens, greets.same]
    rfl
  | @sends work became command c reports =>
    refine .sends rfl rfl ?_ ?_ rfl
    · rintro ⟨w, own, attempt⟩
      obtain rfl : work = some w := own
      exact not_attempt_of_reporting reports (by simp) attempt
    · obtain ⟨active, same⟩ := c.sent_eq command
      rw [Incident.Opens, same]
      exact (Nat.succ_ne_self _).symm
  | @waits _ _ _ command c d _ _ reconnects =>
    obtain ⟨generation, active⟩ := unlinked_same c.cut_cases
    exact .quiet (fun _ => reconnects.not_arriving) (reconnects.alike.generation.trans generation)
      (.inr rfl) (reconnects.alike.active.trans active)
  | @refuses _ _ command c =>
    obtain ⟨generation, active⟩ := unlinked_same c.cut_cases
    exact .quiet (by simp) generation (.inr rfl) active
  | @loses _ generation _ c d reconnects =>
    obtain ⟨same, active⟩ := unlinked_same (c.drop_cases generation)
    exact .quiet (fun _ => reconnects.not_arriving) (reconnects.alike.generation.trans same)
      (.inr rfl) (reconnects.alike.active.trans active)
  | ticks _ reconnects =>
    exact .quiet (fun _ => reconnects.not_arriving) reconnects.alike.generation (.inr rfl)
      reconnects.alike.active
  | closes => exact .quiet (by simp) rfl (.inr rfl) rfl

theorem Engages.active_iff (engages : Engages x) :
    id ∈ x.after.active ↔ x.Receives id ∨ id ∈ x.before.active ∧ ¬ x.Releases id := by
  cases engages with
  | keeps never stays active => simp [active, never id, stays id]
  | @receives task begun stays active =>
    have receives : x.Receives id ↔ task.id = id := by simp [Incident.Receives, begun]
    rw [active, mem_receive, receives]
    simp [stays id]
  | @sends command begun written other shut active =>
    have never : ¬ x.Receives id := by simp [Incident.Receives, begun]
    have releases : x.Releases id ↔ command.settles = some id := by
      simp [Incident.Releases, Incident.Settles, other, shut, written]
    rw [active, mem_sent, releases]
    simp [never]
  | opens never opened active =>
    have releases : x.Releases id := .inl opened
    simp [active, never id, releases]

theorem Engages.nodup (engages : Engages x) (before : x.before.active.Nodup) :
    x.after.active.Nodup := by
  cases engages with
  | keeps _ _ active => rwa [active]
  | @receives task _ _ active =>
    rw [active]
    unfold receive
    dsimp only
    split
    · exact before
    · next fresh => simpa using List.Nodup.concat fresh before
  | @sends command _ _ _ _ active =>
    rw [active]
    unfold sent
    split
    · exact before.filter _
    · exact before
  | opens _ _ active =>
    rw [active]
    exact List.nodup_nil

/-! ## 3. Runs -/

theorem Happens.claims (happens : Happens x) (attempts : x.Attempts) (orderly : x.before.Orderly) :
    ¬ x.Opens ∧ x.written = [] ∨
      ∃ rest, x.written = x.before.claims ++ rest ∧ ∀ ids, .recover ids ∉ rest := by
  obtain ⟨w, own, attempt⟩ := attempts
  cases happens with
  | still _ _ _ _ alike => exact .inl ⟨Incident.shut alike.generation, rfl⟩
  | receives | connects | loses | ticks | closes =>
    obtain rfl := Option.some.inj own
    cases attempt
  | retries alike => exact .inl ⟨Incident.shut alike.generation, rfl⟩
  | ceases alike => exact .inl ⟨Incident.shut alike.generation, rfl⟩
  | @fails _ _ _ _ c e d greets alike =>
    have generation : d.generation = c.generation := by rw [alike.generation, greets.same]
    exact (greets.claims orderly).imp (fun ⟨_, nothing⟩ => ⟨Incident.shut generation, nothing⟩) id
  | @pauses _ _ _ _ c e d greets alike =>
    have generation : d.generation = c.generation := by rw [alike.generation, greets.same]
    exact (greets.claims orderly).imp (fun ⟨_, nothing⟩ => ⟨Incident.shut generation, nothing⟩) id
  | opens greets =>
    exact .inr ((greets.claims orderly).resolve_left nofun)
  | reopens greets =>
    exact .inr ((greets.claims orderly).resolve_left nofun)
  | @sends work became _ _ reports =>
    obtain rfl : work = some w := own
    exact absurd attempt (not_attempt_of_reporting reports (by simp))
  | @waits work became _ _ _ _ reports =>
    obtain rfl : work = some w := own
    exact absurd attempt (not_attempt_of_reporting reports (by simp))
  | @refuses work became _ _ reports =>
    obtain rfl : work = some w := own
    exact absurd attempt (not_attempt_of_reporting reports (by simp))

namespace Station

variable {start f g : Station}

theorem Run.active_iff (new : New start) (run : Run start h f) :
    id ∈ f.consumer.active ↔ Since h (·.Receives id) fun y => ¬ y.Releases id := by
  induction run with
  | nil =>
    obtain ⟨settings, handler, fresh⟩ := new.consumer
    rw [fresh]
    exact iff_of_false List.not_mem_nil since_nil
  | snoc _ step ih =>
    rw [since_snoc, ← step.after, step.happens.engages.active_iff, step.before, ih]

theorem Run.active_nodup (new : New start) (run : Run start h f) : f.consumer.active.Nodup := by
  induction run with
  | nil =>
    obtain ⟨settings, handler, fresh⟩ := new.consumer
    rw [fresh]
    exact List.nodup_nil
  | snoc _ step ih =>
    rw [← step.after]
    exact step.happens.engages.nodup (step.before ▸ ih)

/-- Over any number of connections, the active tasks are those that have arrived and were not
released since, each of them once, and a handshake claims just these. -/
theorem Run.reclaims (new : New start) (run : Run start h f) :
    (∀ id, id ∈ f.consumer.active ↔ Since h (·.Receives id) fun y => ¬ y.Releases id) ∧
    f.consumer.active.Nodup ∧
    ∀ x g, Step f x g → x.Attempts → ¬ x.Opens ∧ x.written = [] ∨
      ∃ rest, x.written = f.consumer.claims ++ rest ∧ ∀ ids, .recover ids ∉ rest := by
  refine ⟨fun id => run.active_iff new, run.active_nodup new, fun x g step attempts => ?_⟩
  rw [← step.before]
  exact step.happens.claims attempts (step.before ▸ run.orderly new)

/-! ## 4. Tasks that were not settled -/

/-- The producer writes a task to a connection. -/
def Cue.arrive (id : ConnectionId) (task : Task) : Cue :=
  .network fun net =>
    ((Frame.pack 1000 (Message.encode (.task task))).bind (net.write id .listener)).getD net

/-- A consumer that holds its tasks, and a listener. -/
def holding : Station :=
  let settings : ConsumerSettings := .standard
  ⟨⟨(Network.new []).listen settings.hostAddress, .new settings fun _ => .prompt [] .held⟩, []⟩

theorem new_holding : New holding :=
  ⟨⟨.standard, _, rfl⟩, rfl⟩

/-- Two tasks arrive and one is settled. The connection is lost, and the next one begins with a
claim of the other task. -/
theorem Run.reclaims_other :
    let id (n : Nat) : TaskId := .ofNat n
    ∃ h f x g, New holding ∧ Run holding h f ∧ f.consumer.active = [id 2] ∧
      (¬ Since h (·.Receives (id 1)) fun y => ¬ y.Releases (id 1)) ∧
      (Since h (·.Receives (id 2)) fun y => ¬ y.Releases (id 2)) ∧
      Step f x g ∧ x.Attempts ∧ ∃ rest, x.written = .recover [id 2] :: rest ∧
        ∀ ids, .recover ids ∉ rest := by
  intro id
  have evaluated : ∃ last ∈ holding.follow 0 [.connect, .work 0, .work 0,
      .arrive 0 (.new (id 1) 0 "t" .null), .work 1, .arrive 0 (.new (id 2) 0 "t" .null), .work 1,
      .give (.ack (id 1)), .network (·.hangUp 0 .listener), .work 1, .work 4],
      last.2.consumer.active = [id 2] ∧ ∃ opening ∈ last.2.act 0 (.work 4),
        opening.1.after.generation = opening.1.before.generation + 1 := by
    decide +kernel
  obtain ⟨⟨h, f⟩, follows, active, ⟨x, g⟩, acts, opens⟩ := evaluated
  have run : Run holding h f := .follow follows
  have step : Step f x g := .act acts
  have attempts : x.Attempts := step.happens.relinks.attempt opens
  obtain ⟨holds, -, claims⟩ := run.reclaims new_holding
  obtain ⟨shut, -⟩ | ⟨rest, writes, only⟩ := claims x g step attempts
  · exact absurd opens shut
  · refine ⟨h, f, x, g, new_holding, run, active, ?_, ?_, step, attempts, rest, ?_, only⟩
    · rw [← holds, active]
      decide
    · rw [← holds, active]
      decide
    · rw [writes, Consumer.claims, active]
      rfl

/-- A task that was not settled is not claimed any more after a handshake was complete. -/
theorem Run.forgets :
    let id : TaskId := .ofNat 1
    ∃ h f x g, Run holding h f ∧ (Since h (·.Receives id) fun y => ¬ y.Settles id) ∧
      f.consumer.active = [] ∧ Step f x g ∧ x.Opens ∧ x.written = [.ready] := by
  intro id
  have evaluated : ∃ first ∈ holding.follow 0 [.connect, .work 0, .work 0,
      .arrive 0 (.new id 0 "t" .null), .work 1],
      id ∈ first.2.consumer.active ∧ ∃ later ∈ first.2.follow 0 [.network (·.hangUp 0 .listener),
        .work 1, .work 3, .work 3, .network (·.hangUp 1 .listener), .work 3, .work 3],
        written (first.1 ++ later.1) = [.ready, .recover [id], .ready] ∧
        later.2.consumer.active = [] ∧ ∃ opening ∈ later.2.act 0 (.work 3),
          opening.1.after.generation = opening.1.before.generation + 1 ∧
          opening.1.written = [.ready] := by
    decide +kernel
  obtain ⟨⟨h, f⟩, follows, arrived, ⟨later, g⟩, goesOn, sent, active, ⟨x, _⟩, acts, opens, ready⟩ :=
    evaluated
  have run : Run holding h f := .follow follows
  obtain ⟨past, y, rest, split, receives, -⟩ := (run.active_iff new_holding).mp arrived
  have unsettled : ∀ z ∈ h ++ later, ¬ z.Settles id := by
    rintro z member ⟨command, wrote, settles⟩
    have none : ∀ command ∈ written (h ++ later), command.settles ≠ some id := by
      rw [sent]
      decide
    exact none command (List.mem_flatMap.mpr ⟨z, member, wrote⟩) settles
  rw [split] at unsettled
  refine ⟨h ++ later, g, x, _, run.append (.follow goesOn),
    ⟨past, y, rest ++ later, by simp [split], receives, fun z member => unsettled z ?_⟩, active,
    .act acts, opens, ready⟩
  rw [List.append_assoc]
  exact List.mem_append_right past (List.mem_cons_of_mem y member)

/-- A task that was settled in a handshake that failed after that is claimed by the next one. -/
theorem Run.repeats :
    let id : TaskId := .ofNat 1
    ∃ h f x g, Run holding h f ∧ (¬ Since h (·.Receives id) fun y => ¬ y.Settles id) ∧
      f.consumer.active = [id] ∧ Step f x g ∧ x.Opens ∧ x.written = [.recover [id], .ready] := by
  intro id
  -- The handshake of the loop at place 3 fails after two commands.
  let broken (f : Station) := f.consumer.handshake (logged budget) (2, [])
  let failure (f : Station) (w : Work) (turn : Turn Outpost Work) :=
    turn.incident (some w) [] [.recover [id], .ack id] f.consumer
  have evaluated : ∃ first ∈ holding.follow 0 [.connect, .work 0, .work 0,
      .arrive 0 (.new id 0 "t" .null), .work 1, .network (·.hangUp 0 .listener), .work 1,
      .give (.ack id), .work 3], ∃ w ∈ first.2.works[3]?,
      ((broken first.2).1.isOk = false ∧ (broken first.2).2.2.2 = [.recover [id], .ack id]) ∧
      ∃ turn ∈ w.failing 0 ⟨first.2.outpost.network, (broken first.2).2.1⟩,
      ∃ later ∈ (after (first.2.works.take 3) (first.2.works.drop 4) turn).follow 10000
        [.work 3, .work 3],
        (∀ y ∈ failure first.2 w turn :: later.1, y.begun.isEmpty = true) ∧
        later.2.consumer.active = [id] ∧ ∃ opening ∈ later.2.act 10000 (.work 3),
          opening.1.after.generation = opening.1.before.generation + 1 ∧
          opening.1.written = [.recover [id], .ready] := by
    decide +kernel
  obtain ⟨⟨h, f⟩, follows, w, found, ⟨incomplete, sent⟩, turn, fails, ⟨later, g⟩, goesOn, quiet,
    active, ⟨x, _⟩, acts, opens, claims⟩ := evaluated
  have greets : f.consumer.Greets (broken f).1.isOk (broken f).2.2.2 (broken f).2.1 :=
    greets_handshake
  rw [incomplete, sent] at greets
  have failed : Step ⟨f.outpost, f.works.take 3 ++ w :: f.works.drop 4⟩ (failure f w turn)
      (after (f.works.take 3) (f.works.drop 4) turn) := .fail greets fails
  rw [works_around found] at failed
  have run : Run holding h f := .follow follows
  refine ⟨h ++ [failure f w turn] ++ later, g, x, _, (run.snoc failed).append (.follow goesOn), ?_,
    active, .act acts, opens, claims⟩
  rw [List.append_assoc, List.singleton_append]
  refine not_since (fun unsettled => unsettled ⟨.ack id, by simp [failure, Turn.incident], rfl⟩) ?_
  rintro y member ⟨task, -, arrives⟩
  rw [List.isEmpty_iff.mp (quiet y member)] at arrives
  cases arrives

/-- The tasks that a handshake claims are not those that have arrived and were not settled: one that
was not settled can be missing, and one that was settled can be among them. -/
theorem Run.reclaims_not_held :
    let id : TaskId := .ofNat 1
    (∃ h f x g, New holding ∧ Run holding h f ∧
      (Since h (·.Receives id) fun y => ¬ y.Settles id) ∧
      f.consumer.active = [] ∧ Step f x g ∧ x.Opens ∧ x.written = [.ready]) ∧
    ∃ h f x g, New holding ∧ Run holding h f ∧
      (¬ Since h (·.Receives id) fun y => ¬ y.Settles id) ∧
      f.consumer.active = [id] ∧ Step f x g ∧ x.Opens ∧
      x.written = [.recover [id], .ready] := by
  intro id
  obtain ⟨h, f, x, g, run, rest⟩ := Run.forgets
  obtain ⟨h', f', x', g', run', rest'⟩ := Run.repeats
  exact ⟨⟨h, f, x, g, new_holding, run, rest⟩, h', f', x', g', new_holding, run', rest'⟩

end Station

end TaskQueue
