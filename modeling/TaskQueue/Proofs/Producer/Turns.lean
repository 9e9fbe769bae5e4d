import TaskQueue.Proofs.Engine.Lifecycle
import TaskQueue.Proofs.Producer.Stale

/-!
# Sessions that take turns

Commands and sessions that leave are handled one after the other: while one is handled, nobody else
begins.

Results:
1. `Turns.grounds`: what the duties at work rely on is there at any time.
2. `Turns.runs_iff`: between turns a task that is held is running if and only if it is not stale. The
   number of held tasks is that of the running ones and of the stale ones.
-/

namespace TaskQueue

/-! ## 1. Turns -/

/-- At a moment in turn no call has failed, and others do nothing but submit tasks. -/
def Moment.InTurn (x : Moment) : Prop :=
  match x.duty with
  | some d => d.hasFailed = false
  | none =>
    x.after.engine.store.committed = x.before.engine.store.committed ∨
      ∃ batch, x.before.engine.store.committed.queue batch = .ok x.after.engine.store.committed

theorem Moment.inTurn_duty {x : Moment} (unfailed : x.duty.any (!·.hasFailed) = true) :
    x.InTurn := by
  unfold InTurn
  cases duty : x.duty with
  | none => simp [duty] at unfailed
  | some d => simpa [duty] using unfailed

/-- A batch that is queued starts and stops nothing. -/
theorem Contents.runs_queue {c d : Contents} {batch : List Task} {id : TaskId}
    (queued : c.queue batch = .ok d) : d.Runs id ↔ c.Runs id := by
  constructor
  · rintro ⟨task, stored, running⟩
    rw [queue_eq_ok queued] at stored
    rcases get?_foldl_append batch id with ⟨same, -⟩ | ⟨_, -, -, _, ⟨_, rfl⟩, added⟩
    · exact ⟨task, same.symm.trans stored, running⟩
    · rw [added] at stored
      cases stored
      cases running
  · rintro ⟨task, stored, running⟩
    exact ⟨task, get?_queue queued stored, running⟩

namespace Hall

/-- At most one duty does not rest. -/
def Calm (f : Hall) : Prop :=
  f.duties.countP (!·.rests) ≤ 1

/-- No command is being handled, and no session is leaving. -/
def AtRest (f : Hall) : Prop :=
  ∀ d ∈ f.duties, d.rests = true

/-- A run in which commands and sessions that leave are handled one after the other. -/
inductive Turns (start : Hall) : List Moment → Hall → Prop
  | nil : Turns start [] start
  | snoc {h : List Moment} {f g : Hall} {x : Moment} : Turns start h f → Step f x g → x.InTurn →
      g.Calm → Turns start (h ++ [x]) g

instance (f : Hall) : Decidable f.Calm :=
  inferInstanceAs (Decidable (f.duties.countP (!·.rests) ≤ 1))

instance (f : Hall) : Decidable f.AtRest :=
  inferInstanceAs (Decidable (∀ d ∈ f.duties, d.rests = true))

variable {start f g : Hall} {h : List Moment} {x : Moment} {s : SessionId} {id : TaskId}

theorem Turns.run (turns : Turns start h f) : Run start h f := by
  induction turns with
  | nil => exact .nil
  | snoc _ step _ _ ih => exact ih.snoc step

/-- While one duty is at work, the others rest. -/
theorem Calm.rests {v : Service} {duties new others : List Duty} (calm : Calm ⟨v, duties⟩)
    (parts : duties.Perm (new ++ others)) (works : ¬ ∀ d ∈ others, d.rests = true) :
    ∀ d ∈ new, d.rests = true := by
  intro d member
  by_contra busy
  have here : 0 < new.countP (!·.rests) := List.countP_pos_iff.mpr ⟨d, member, by simpa using busy⟩
  have there : 0 < others.countP (!·.rests) := List.countP_pos_iff.mpr (by simpa using works)
  rw [Calm, parts.countP_eq, List.countP_append] at calm
  omega

/-- The duties after a step: those that the step begins, and those that did not take part. -/
theorem replace_perm {front back own started : List Duty} :
    (front ++ own ++ back ++ started).Perm ((own ++ started) ++ (front ++ back)) := by
  calc front ++ own ++ back ++ started
    _ = (front ++ own) ++ (back ++ started) := by simp
    List.Perm _ ((own ++ front) ++ (back ++ started)) := List.perm_append_comm.append_right _
    _ = own ++ ((front ++ back) ++ started) := by simp
    List.Perm _ (own ++ (started ++ (front ++ back))) := List.perm_append_comm.append_left own
    _ = (own ++ started) ++ (front ++ back) := by simp

/-- A step of the one duty at work changes what the duties rely on as `Duty.step_grounds` says. Any
other step changes nothing. -/
theorem Step.grounds (wellFormed : f.service.engine.store.committed.WellFormed)
    (grounds : Duty.Grounds h f.service f.duties) (calm : f.Calm) (step : Step f x g)
    (inTurn : x.InTurn) (calm' : g.Calm) : Duty.Grounds (h ++ [x]) g.service g.duties := by
  cases step with
  | @duty v front back d turn wall now step =>
    have before : (front ++ d :: back).Perm ([d] ++ (front ++ back)) := List.perm_middle
    have after : (front ++ turn.self.toList ++ back ++ turn.started).Perm
        ((turn.self.toList ++ turn.started) ++ (front ++ back)) := replace_perm
    by_cases others : ∀ d' ∈ front ++ back, d'.rests = true
    · have own : Duty.Grounds h v [d] := grounds.active
        (fun d' member => .inr (before.mem_iff.mpr (List.mem_append_left _ member)))
        fun d' member => (List.mem_append.mp (before.mem_iff.mp member)).elim .inr
          fun other => .inl (others d' other)
      refine (Duty.step_grounds wellFormed inTurn own step).active (fun d' member => ?_)
        fun d' member => .inr (after.mem_iff.mpr (List.mem_append_left _ member))
      exact (List.mem_append.mp (after.mem_iff.mp member)).elim .inr
        fun other => .inl (others d' other)
    · -- Somebody else is at work.
      have rests : d.rests = true := calm.rests before others d (List.mem_singleton_self d)
      have rest := calm'.rests after others
      refine (grounds.quiet (Duty.step_rests wellFormed rests step rest)).active
        (fun d' member => ?_) fun d' member => ?_
      · exact (List.mem_append.mp (after.mem_iff.mp member)).imp (rest d')
          fun other => before.mem_iff.mpr (List.mem_append_right _ other)
      · rcases List.mem_append.mp (before.mem_iff.mp member) with own | other
        · exact .inl (List.mem_singleton.mp own ▸ rests)
        · exact .inr (after.mem_iff.mpr (List.mem_append_right _ other))
  | @outside v w duties shutdown _ same =>
    refine grounds.quiet (x := ⟨none, v, w⟩) ⟨fun id => ?_, fun id => ?_, by rintro _ _ ⟨_, ⟨⟩, -⟩⟩
    · exact Producer.holder_eq (by rw [same]) id
    · rcases inTurn with unchanged | ⟨batch, queued⟩
      · exact iff_of_eq (congrArg (Contents.Runs · id) unchanged)
      · exact Contents.runs_queue queued

theorem Turns.grounds (new : New start) (turns : Turns start h f) :
    Duty.Grounds h f.service f.duties ∧ f.Calm := by
  induction turns with
  | nil =>
    obtain ⟨settings, address, fresh⟩ := new.producer
    refine ⟨⟨?_, fun _ _ stale => absurd stale since_nil, fun id s holds => ?_,
      fun id s holds => ?_⟩, ?_⟩
    · rw [new.duties]
      exact List.forall_mem_singleton.mpr trivial
    · rw [fresh] at holds
      cases holds
    · rw [fresh] at holds
      cases holds
    · rw [Calm, new.duties]
      decide
  | snoc earlier step inTurn calm ih =>
    exact ⟨step.grounds (earlier.run.sound new).wellFormed ih.1 ih.2 inTurn calm, calm⟩

/-! ## 2. Held tasks -/

/-- A session holds what it took at some moment, and has held since. -/
theorem Run.held_iff (new : New start) (run : Run start h f) :
    f.service.producer.holder id = some s ↔ TakenSince h s id := by
  refine run.holds_iff ?_
  obtain ⟨settings, address, fresh⟩ := new.producer
  rw [fresh]
  exact nofun

theorem mem_keys_owners {p : Producer} : id ∈ p.owners.keys ↔ ∃ s, p.holder id = some s := by
  simp [Table.keys, Producer.holder, Table.get?_eq_some_iff]

/-- Between turns a task that is held is running if and only if no other session has reported it
done since it was handed to the session that holds it. The number of held tasks is that of the tasks
that run and were handed to, or recovered by, an open session, which has held them since, and of
those that were reported done by another session than the open one that has held them since. -/
theorem Turns.runs_iff (new : New start) (turns : Turns start h f) (rest : f.AtRest) :
    (∀ id s, f.service.producer.holder id = some s →
      (f.service.isRunning id = .ok true ↔ ¬ Stale h s id)) ∧
    ∃ live stale : List TaskId, live.Nodup ∧ stale.Nodup ∧
      (∀ id, id ∈ live ↔ f.service.isRunning id = .ok true ∧
        ∃ s, f.service.producer.isClosed s = false ∧ TakenSince h s id) ∧
      (∀ id, id ∈ stale ↔ ∃ s, f.service.producer.isClosed s = false ∧ TakenSince h s id ∧
        Stale h s id) ∧
      f.service.producer.heldCount = live.length + stale.length := by
  have grounds := (turns.grounds new).1
  have runs : ∀ id s, f.service.producer.holder id = some s →
      (f.service.isRunning id = .ok true ↔ ¬ Stale h s id) := by
    intro id s holds
    rw [Service.isRunning_iff]
    refine ⟨fun running stale => ?_, grounds.held id s holds⟩
    obtain ⟨d, member, hands⟩ := grounds.stale id s holds stale running
    exact Duty.not_hands_of_rests (rest d member) hands
  have taken (id : TaskId) (s : SessionId) :
      f.service.producer.holder id = some s ↔ TakenSince h s id := turns.run.held_iff new
  have opened (id : TaskId) (s : SessionId) (since : TakenSince h s id) :
      f.service.producer.isClosed s = false :=
    turns.run.heldOpen new id s ((taken id s).mpr since)
  classical
  let keys := f.service.producer.owners.keys
  let running (id : TaskId) : Bool := decide (f.service.isRunning id = .ok true)
  have distinct : keys.Nodup := f.service.producer.owners.distinct
  refine ⟨runs, keys.filter running, keys.filter (!running ·), distinct.filter _,
    distinct.filter _, fun id => ?_, fun id => ?_, ?_⟩
  · rw [List.mem_filter, decide_eq_true_iff, mem_keys_owners, and_comm]
    refine and_congr_right fun _ => exists_congr fun s => ?_
    rw [taken]
    exact ⟨fun since => ⟨opened id s since, since⟩, And.right⟩
  · rw [List.mem_filter, mem_keys_owners, ← exists_and_right]
    refine exists_congr fun s => ?_
    rw [taken, Bool.not_eq_true', decide_eq_false_iff_not]
    have stops (since : TakenSince h s id) : ¬ f.service.isRunning id = .ok true ↔ Stale h s id :=
      (runs id s ((taken id s).mpr since)).not.trans not_not
    exact ⟨fun ⟨since, stopped⟩ => ⟨opened id s since, since, (stops since).mp stopped⟩,
      fun ⟨_, since, stale⟩ => ⟨since, (stops since).mpr stale⟩⟩
  · rw [← List.length_eq_length_filter_add, Producer.heldCount, Table.size]
    exact (List.length_map _).symm

/-- The steps of the duties at some places, one after the other at one point in time, if these are
turns. -/
def takeTurns (wall : UInt64) (now : Nat) : List Nat → Hall → Option (List Moment × Hall)
  | [], f => some ([], f)
  | place :: places, f => do
    let (x, g) ← f.turn? wall now place
    if x.duty.any (!·.hasFailed) ∧ g.Calm then
      let (later, g) ← takeTurns wall now places g
      return (x :: later, g)
    else none

theorem Turns.follow {wall : UInt64} {now : Nat} {places : List Nat} {later : List Moment}
    (turns : Turns start h f) (follows : f.takeTurns wall now places = some (later, g)) :
    Turns start (h ++ later) g := by
  induction places generalizing h f later with
  | nil =>
    cases follows
    rwa [List.append_nil]
  | cons place places ih =>
    simp only [takeTurns, Option.bind_eq_bind, Option.bind_eq_some_iff] at follows
    obtain ⟨⟨x, middle⟩, turn, follows⟩ := follows
    split at follows
    · next inTurn =>
      simp only [Option.pure_def, Option.bind_eq_some_iff, Option.some.injEq, Prod.mk.injEq]
        at follows
      obtain ⟨⟨rest, last⟩, went, rfl, rfl⟩ := follows
      have later := ih (turns.snoc (.turn turn) (Moment.inTurn_duty inTurn.1) inTurn.2) went
      rwa [List.append_assoc] at later
    · cases follows

/-- A producer with a task and two connections: one asks for a task, the other one reports it done. -/
def reporting : Hall :=
  let id : TaskId := .ofNat 1
  let address : Address := "localhost:7000"
  let sends (command : Command) : Pipe :=
    { Pipe.new with bytes := (Frame.pack 1024 command.encode).getD [] }
  ⟨⟨{ Engine.new .inMemory .standard with store := { Store.new .inMemory with
      committed := (Contents.empty.answer (.queue [.new id 0 "job" default])).2 } },
    { Network.new [] with
      connections := [⟨sends .ready, .new⟩, ⟨sends (.ack id), .new⟩]
      listening := [address], waiting := [(address, 0), (address, 1)] },
    .new .standard address⟩, [.accepting]⟩

theorem new_reporting : New reporting :=
  ⟨⟨_, _, rfl⟩, Contents.wellFormed_empty.answer trivial, rfl⟩

theorem turns_reporting : ∃ h f, Turns reporting h f ∧ f.AtRest ∧
    f.service.producer.holder (.ofNat 1) = some 0 ∧ f.service.isRunning (.ofNat 1) = .ok false ∧
    f.service.producer.heldCount = 1 := by
  let last := (reporting.takeTurns 0 0 [0, 1, 3, 3, 3, 3, 0, 3, 3, 3, 3]).get (by decide +kernel)
  exact ⟨last.1, last.2, Turns.nil.follow (Option.some_get _).symm, by decide +kernel⟩

/-- The task that the other session reported done is the only one that is held. -/
theorem Turns.runs_iff_reported : ∃ h f, New reporting ∧ Turns reporting h f ∧ f.AtRest ∧
    f.service.producer.holder (.ofNat 1) = some 0 ∧
    f.service.isRunning (.ofNat 1) = .ok false ∧ Stale h 0 (.ofNat 1) ∧
    ∃ stale : List TaskId, (∀ id, id ∈ stale ↔ ∃ s, f.service.producer.isClosed s = false ∧
      TakenSince h s id ∧ Stale h s id) ∧ stale.length = 1 ∧ f.service.producer.heldCount = 1 := by
  obtain ⟨h, f, turns, rest, holds, stopped, count⟩ := turns_reporting
  obtain ⟨runs, live, stale, -, -, -, isStale, total⟩ := Turns.runs_iff new_reporting turns rest
  have disowned : Stale h 0 (.ofNat 1) := by
    by_contra fresh
    have running := (runs _ 0 holds).mpr fresh
    rw [stopped] at running
    cases running
  refine ⟨h, f, new_reporting, turns, rest, holds, stopped, disowned, stale, isStale, ?_, count⟩
  have opened := turns.run.heldOpen new_reporting _ 0 holds
  have taken := (turns.run.held_iff new_reporting).mp holds
  have some := List.length_pos_of_mem ((isStale _).mpr ⟨0, opened, taken, disowned⟩)
  omega

/-- It is not so that each task that is held is running, and that only running ones are counted. -/
theorem Turns.not_only_running : ¬ ∀ start h f, New start → Turns start h f → f.AtRest →
    (∀ id s, f.service.producer.holder id = some s → f.service.isRunning id = .ok true) ∧
    ∃ live : List TaskId, live.Nodup ∧
      (∀ id, id ∈ live ↔ f.service.isRunning id = .ok true ∧
        ∃ s, f.service.producer.isClosed s = false ∧ TakenSince h s id) ∧
      f.service.producer.heldCount = live.length := by
  obtain ⟨h, f, turns, rest, holds, stopped, -⟩ := turns_reporting
  intro claimed
  have running := (claimed _ h f new_reporting turns rest).1 _ 0 holds
  rw [stopped] at running
  cases running

end Hall

end TaskQueue
