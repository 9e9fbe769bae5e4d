import TaskQueue.Proofs.Engine.Calls
import TaskQueue.Proofs.Producer.Hall

/-!
# Sessions that leave

A session that leaves first gives up what it holds, and then has each task tried again, one after
the other. So has a session to which a task comes after it has left. In between, other sessions may
take the same tasks.

Results:
1. `Cancels.step`: a call that has a task tried again leaves all other tasks as they are.
2. `step_advance`: each step of a duty commits an order at most, and the tasks that are tried again
   are those that a session held when it left, or that could not be delivered.
3. `Run.sound`: so it is in every run.
4. `Run.requeue_robs_iff`: a task is taken away from another session if and only if that session
   took it after it was given up, and has held it since.
-/

namespace TaskQueue

/-! ## 1. Calls that have a task tried again -/

namespace Call

/-- A call on its way that gives up a task, to be tried again. -/
def Cancels (id : TaskId) : Call Bool → Prop
  | .starting op => op = Operation.cancel id true
  | .entering body _ => body = (Operation.cancel id true).body
  | .writing _ _ => False
  | .finished _ => True

variable {id : TaskId} {c c' : Call Bool}

theorem Cancels.fits (cancels : c.Cancels id) : c.Fits := by
  cases c with
  | starting op =>
    obtain rfl := cancels
    exact Operation.isOrder_cancel id true
  | entering body limit =>
    obtain rfl := cancels
    exact ⟨_, Operation.isOrder_cancel id true, rfl⟩
  | writing _ _ => cases cancels
  | finished _ => trivial

/-- Giving up a task leaves the others as they are. -/
theorem cancel_other {c : Contents} (h : c.WellFormed) {other : TaskId} (differs : other ≠ id) :
    ((Operation.cancel id true).body.run.exec c).2.tasks.get? other = c.tasks.get? other := by
  cases found : c.tasks.get? id with
  | none => rw [Operation.cancel_unknown found]
  | some task =>
    have own := h.keyed found
    have stored : c.tasks.get? task.id = some task := by rw [own, found]
    have put : ∀ again : Task, again.id = task.id →
        (c.put again).tasks.get? other = c.tasks.get? other := by
      intro again same
      rw [Contents.get?_put, if_neg (by rw [same, own]; exact differs)]
    rw [Operation.cancel_exec found, Operation.retry_exec stored]
    simp only
    split
    · contradiction
    split
    · rfl
    split
    · exact put _ rfl
    split
    · rfl
    · exact put _ rfl

theorem Cancels.step {e e' : Engine} {now : Nat} (h : e.store.committed.WellFormed)
    (cancels : c.Cancels id) (step : c.step now e = some (e', c')) :
    c'.Cancels id ∧ ∀ other, other ≠ id →
      e'.store.committed.tasks.get? other = e.store.committed.tasks.get? other := by
  cases step_does step with
  | waits =>
    obtain rfl := cancels
    exact ⟨rfl, fun _ _ => rfl⟩
  | starts outside =>
    obtain rfl := cancels
    cases outside
  | enters free =>
    obtain rfl := cancels
    rw [Store.isolated_eq free]
    have others := fun other => @cancel_other id _ h other
    generalize (Operation.cancel id true).body.run.exec e.store.committed = done at others
    obtain ⟨result, after⟩ := done
    cases result with
    | ok r =>
      refine ⟨trivial, fun other differs => ?_⟩
      rw [conclude, Order.conclude_committed]
      exact others other differs
    | error failure => exact ⟨trivial, fun _ _ => rfl⟩
  | givesUp => exact ⟨trivial, fun _ _ => rfl⟩
  | writes | refused => cases cancels

end Call

/-! ## 2. Steps of duties -/

namespace Hall

/-- The moment at which a session leaves and gives up a task that it holds. -/
def GivenUp (x : Moment) (s : SessionId) (id : TaskId) : Prop :=
  x.duty = some (.leaving s) ∧ x.before.producer.holder id = some s

/-- The moment at which a task cannot be delivered to a session. -/
def Refused (x : Moment) (s : SessionId) (id : TaskId) : Prop :=
  ∃ task : Task, task.id = id ∧ x.duty = some (.delivering s task) ∧
    (x.before.producer.deliver s task).1 = .refused

end Hall

namespace Duty

open Hall

/-- Calls are orders. A session that has left only has those tasks tried again that it gave up, and
beyond those only the ones that could not be delivered are. -/
def Fits (h : List Moment) : Duty → Prop
  | .settling _ call => call.Fits
  | .returning s call left => (∃ id, call.Cancels id ∧ ∃ x ∈ h, GivenUp x s id) ∧
    ∀ id ∈ left, ∃ x ∈ h, GivenUp x s id
  | .handingBack call => ∃ id, call.Cancels id ∧ ∃ x ∈ h, ∃ s, Refused x s id
  | _ => True

variable {h h' : List Moment} {v : Service} {d : Duty} {turn : Turn Service Duty}
  {s : SessionId} {call : Call Bool} {now : Nat} {wall : UInt64}

theorem Fits.mono (fits : d.Fits h) (more : h ⊆ h') : d.Fits h' := by
  cases d with
  | returning s call left =>
    obtain ⟨⟨id, cancels, x, known, given⟩, others⟩ := fits
    refine ⟨⟨id, cancels, x, more known, given⟩, fun other member => ?_⟩
    obtain ⟨x, known, given⟩ := others other member
    exact ⟨x, more known, given⟩
  | handingBack call =>
    obtain ⟨id, cancels, x, known, refused⟩ := fits
    exact ⟨id, cancels, x, more known, refused⟩
  | settling s call => exact fits
  | _ => trivial

/-- The session that has left and whose tasks are tried again. -/
def leaver : Duty → Option SessionId
  | .returning s _ _ => some s
  | _ => none

theorem leaver_eq (leaves : d.leaver = some s) : ∃ call left, d = .returning s call left := by
  cases d with
  | returning _ call left =>
    cases leaves
    exact ⟨call, left, rfl⟩
  | _ => cases leaves

theorem giveBack_fits {ids : List TaskId} (given : ∀ id ∈ ids, ∃ x ∈ h, GivenUp x s id) :
    (giveBack s ids).Fits h := by
  cases ids with
  | nil => trivial
  | cons id left =>
    obtain ⟨first, others⟩ := List.forall_mem_cons.mp given
    exact ⟨⟨id, rfl, first⟩, others⟩

/-- What one step of a duty comes to. -/
structure Advance (h : List Moment) (v : Service) (turn : Turn Service Duty) : Prop where
  commits : v.engine.store.CommitsOne turn.state.engine.store
  fits : ∀ d ∈ turn.self.toList ++ turn.started, d.Fits h

theorem advance_next {w : Service} (commits : v.engine.store.CommitsOne w.engine.store)
    (fits : d.Fits h) : Advance h v (.next w d) where
  commits := commits
  fits := by simpa [Turn.next] using fits

theorem advance_last {w : Service} (commits : v.engine.store.CommitsOne w.engine.store) :
    Advance h v (.last w) where
  commits := commits
  fits := by simp [Turn.last]

theorem advance_call {engine : Engine} {call' : Call Bool} (fits : call.Fits)
    (went : call.step now v.engine = some (engine, call')) (next : d.Fits h) :
    Advance h v (.next { v with engine } d) :=
  advance_next (Call.step_fits fits went).1.commits next

theorem settle_fits (p : Producer) (s : SessionId) (id : TaskId) (requeue : Bool) :
    (settle p s id requeue).2.Fits h := by
  simp only [settle]
  split
  · exact Operation.isOrder_cancel id requeue
  · trivial

theorem obey_advance (wall : UInt64) (v : Service) (s : SessionId) (command : Command) :
    Advance h v (obey wall v s command) := by
  cases command with
  | ready => exact ⟨.inl rfl, by simp [obey, Fits]⟩
  | ack id => exact advance_next (.inl rfl) (Operation.isOrder_acknowledge wall id)
  | nack id requeue => exact advance_next (.inl rfl) (settle_fits v.producer s id requeue)
  | error id => exact advance_next (.inl rfl) (settle_fits v.producer s id false)
  | recover ids => exact advance_next (.inl rfl) trivial

/-- Each step of a duty commits an order at most, and only begins what it may. -/
theorem step_advance (wellFormed : v.engine.store.committed.WellFormed) (fits : d.Fits h)
    (step : d.step wall now v = some turn) : Advance (h ++ [⟨some d, v, turn.state⟩]) v turn := by
  have more : h ⊆ h ++ [⟨some d, v, turn.state⟩] := List.subset_append_left _ _
  have known : ⟨some d, v, turn.state⟩ ∈ h ++ [⟨some d, v, turn.state⟩] := by simp
  have fits := fits.mono more
  generalize h ++ [⟨some d, v, turn.state⟩] = h' at fits known
  cases step_does step with
  | accept _ => exact ⟨.inl rfl, by simp [Fits]⟩
  | @obey s network command _ =>
    have advance : Advance h' { v with network } _ := obey_advance wall _ s command
    exact ⟨advance.commits, advance.fits⟩
  | settle went => exact advance_call fits went (Call.step_fits fits went).2
  | leave =>
    refine advance_next (.inl rfl) (giveBack_fits fun id held => ?_)
    exact ⟨_, known, rfl, Producer.mem_heldBy.mp held⟩
  | giveBack went =>
    obtain ⟨⟨id, cancels, given⟩, others⟩ := fits
    exact advance_call cancels.fits went ⟨⟨id, (cancels.step wellFormed went).1, given⟩, others⟩
  | givenBack _ => exact advance_next (.inl rfl) (giveBack_fits fits.2)
  | select went => exact advance_next (Acquirer.step_staysOut went).commits trivial
  | @refuse s task refused =>
    refine advance_next (.inl rfl) ⟨task.id, rfl, _, known, s, task, rfl, rfl, ?_⟩
    rw [refused]
  | handBack went =>
    obtain ⟨id, cancels, refused⟩ := fits
    exact advance_call cancels.fits went ⟨id, (cancels.step wellFormed went).1, refused⟩
  | unlisten | part | unselected _ _ | deliver _ | handedBack _ | mute _ =>
    exact advance_last (.inl rfl)
  | hangUp | malformed _ | settled _ | look _ | claim | selected _ | write _ =>
    exact advance_next (.inl rfl) trivial

end Duty

/-! ## 3. Runs -/

namespace Hall

variable {start f g : Hall} {h : List Moment} {x : Moment} {s : SessionId} {id : TaskId}

/-- The stored tasks are well-formed, and each duty does what it may after what has happened. -/
structure Sound (h : List Moment) (f : Hall) : Prop where
  wellFormed : f.service.engine.store.committed.WellFormed
  fits : ∀ d ∈ f.duties, d.Fits h

theorem Step.sound (sound : Sound h f) (step : Step f x g) : Sound (h ++ [x]) g := by
  obtain ⟨wellFormed, fits⟩ := sound
  have more : h ⊆ h ++ [x] := List.subset_append_left _ _
  cases step with
  | @duty v front back d turn wall now step =>
    have advance := Duty.step_advance wellFormed (fits d (by simp)) step
    refine ⟨(advance.commits.follows wellFormed).wellFormed, fun d' member => ?_⟩
    -- The duty that took the step is replaced, and the others only remember one moment more.
    have among : d' ∈ front ++ back ∨ d' ∈ turn.self.toList ++ turn.started := by
      simp only [List.mem_append] at member ⊢
      tauto
    rcases among with old | new
    · refine (fits d' ?_).mono more
      simp only [List.mem_append, List.mem_cons] at old ⊢
      tauto
    · exact advance.fits d' new
  | outside left _ => exact ⟨left, fun d member => (fits d member).mono more⟩

theorem Run.sound (new : New start) (run : Run start h f) : Sound h f := by
  induction run with
  | nil =>
    refine ⟨new.contents, ?_⟩
    rw [new.duties]
    simp [Duty.Fits]
  | snoc _ step ih => exact step.sound ih

/-- A session that leaves no longer holds what it gives up. -/
theorem Step.givenUp (step : Step f x g) (given : GivenUp x s id) :
    g.service.producer.holder id = none := by
  obtain ⟨leaves, held⟩ := given
  cases step with
  | duty step =>
    cases leaves
    cases step
    exact (Producer.holder_close _ s id).trans (if_pos held)
  | outside _ _ => cases leaves

/-! ## 4. Tasks of others -/

/-- A session that is open, and not the given one, holds a task. -/
def HeldElsewhere (p : Producer) (s : SessionId) (id : TaskId) : Prop :=
  ∃ t, t ≠ s ∧ p.isClosed t = false ∧ p.holder id = some t

theorem Run.heldElsewhere_iff {later : List Moment} (held : Duty.HeldOpen f.service.producer)
    (run : Run g later f) (free : g.service.producer.holder id = none) (s : SessionId) :
    HeldElsewhere f.service.producer s id ↔ ∃ t, t ≠ s ∧ TakenSince later t id := by
  have since : ∀ t, f.service.producer.holder id = some t ↔ TakenSince later t id := by
    intro t
    exact run.holds_iff (by simp [free])
  constructor
  · rintro ⟨t, differs, -, holds⟩
    exact ⟨t, differs, (since t).mp holds⟩
  · rintro ⟨t, differs, taken⟩
    have holds := (since t).mpr taken
    exact ⟨t, differs, held id t holds, holds⟩

/-- A call that has a task tried again stops no other task. -/
theorem cancels_stops {v : Service} {call call' : Call Bool} {now : Nat} {engine : Engine}
    {own : TaskId} (h : v.engine.store.committed.WellFormed) (cancels : call.Cancels own)
    (went : call.step now v.engine = some (engine, call')) (running : v.isRunning id = .ok true)
    (stopped : Service.isRunning { v with engine } id = .ok false) : id = own := by
  by_contra differs
  have others := (cancels.step h went).2 id differs
  rw [Service.isRunning_eq, others, ← Service.isRunning_eq, running] at stopped
  cases stopped

/-- The tasks that a session has tried again after it has left are those that it held when it left.
Such a task is taken away from another session if and only if that session took it after that, and
has held it since. A task that could not be delivered is taken away from another session if and only
if that session took it at any time, and has held it since. -/
theorem Run.requeue_robs_iff {d : Duty} {wall : UInt64} {now : Nat} {turn : Turn Service Duty}
    (new : New start) (run : Run start h f) (known : d ∈ f.duties)
    (step : d.step wall now f.service = some turn) (running : f.service.isRunning id = .ok true)
    (stopped : turn.state.isRunning id = .ok false) :
    (∀ s call left, d = .returning s call left → ∃ past x later, h = past ++ x :: later ∧
      GivenUp x s id ∧
      (HeldElsewhere turn.state.producer s id ↔ ∃ t, t ≠ s ∧ TakenSince later t id)) ∧
    (∀ call, d = .handingBack call → (∃ x ∈ h, ∃ s, Refused x s id) ∧
      ∀ s, HeldElsewhere turn.state.producer s id ↔ ∃ t, t ≠ s ∧ TakenSince h t id) := by
  have sound := run.sound new
  have held := run.heldOpen new
  have fits := sound.fits d known
  constructor
  · rintro s call left rfl
    obtain ⟨⟨own, cancels, x, moment, given⟩, -⟩ := fits
    cases Duty.step_does step with
    | givenBack _ =>
      -- The call is over, so this step stops nothing.
      simp only [Turn.next, running] at stopped
      cases stopped
    | giveBack went =>
      obtain rfl := cancels_stops sound.wellFormed cancels went running stopped
      obtain ⟨past, later, rfl⟩ := List.append_of_mem moment
      obtain ⟨g, g', -, leaves, rest⟩ := run.split
      exact ⟨past, x, later, rfl, given,
        rest.heldElsewhere_iff held (leaves.givenUp given) s⟩
  · rintro call rfl
    obtain ⟨own, cancels, refused⟩ := fits
    cases Duty.step_does step with
    | handedBack _ =>
      simp only [Turn.last, running] at stopped
      cases stopped
    | handBack went =>
      obtain rfl := cancels_stops sound.wellFormed cancels went running stopped
      obtain ⟨settings, address, fresh⟩ := new.producer
      have free : start.service.producer.holder id = none := by
        rw [fresh]
        rfl
      exact ⟨refused, run.heldElsewhere_iff held free⟩

/-- A session takes a task and hangs up. Before the task is tried again, another session recovers
it, and then loses it. -/
theorem Run.requeue_robs_iff_recovered :
    let id : TaskId := .ofNat 1
    let address : Address := "localhost:7000"
    let spoken (command : Command) (ended : Bool) : Connection :=
      ⟨{ Pipe.new with bytes := (Frame.pack 1024 command.encode).getD [], ended }, .new⟩
    let start : Hall := ⟨⟨{ Engine.new .inMemory .standard with store := { Store.new .inMemory with
        committed := (Contents.empty.answer (.queue [.new id 0 "job" default])).2 } },
      { Network.new [] with
        connections := [spoken .ready true, spoken (.recover [id]) false]
        listening := [address], waiting := [(address, 0), (address, 1)] },
      .new .standard address⟩, [.accepting]⟩
    ∃ h f d turn, New start ∧ Run start h f ∧ d ∈ f.duties ∧ d.step 0 0 f.service = some turn ∧
      f.service.isRunning id = .ok true ∧ turn.state.isRunning id = .ok false ∧
      HeldElsewhere turn.state.producer 0 id ∧
      ∃ past x later, h = past ++ x :: later ∧ GivenUp x 0 id ∧
        ∃ t, t ≠ 0 ∧ TakenSince later t id := by
  intro id address spoken start
  have new : New start := by
    refine ⟨⟨_, _, rfl⟩, ?_, rfl⟩
    exact Contents.wellFormed_empty.answer trivial
  -- Both are accepted, the first asks for a task, gets it and leaves, and the second recovers it.
  let last := (start.follow 0 0 [0, 0, 1, 5, 5, 5, 5, 1, 1, 1, 3, 3, 3]).get (by decide +kernel)
  have run : Run start last.1 last.2 := .follow (Option.some_get _).symm
  let d := (last.2.duties[1]?).get (by decide +kernel)
  obtain ⟨call, left, same⟩ := Duty.leaver_eq (d := d) (s := 0) (by decide +kernel)
  have known : d ∈ last.2.duties := List.mem_of_getElem? (Option.some_get _).symm
  let turn := (d.step 0 0 last.2.service).get (by decide +kernel)
  have step : d.step 0 0 last.2.service = some turn := (Option.some_get _).symm
  have running : last.2.service.isRunning id = .ok true := by decide +kernel
  have stopped : turn.state.isRunning id = .ok false := by decide +kernel
  have elsewhere : HeldElsewhere turn.state.producer 0 id :=
    ⟨1, by decide, by decide +kernel, by decide +kernel⟩
  obtain ⟨past, x, later, whole, given, robs⟩ :=
    (Run.requeue_robs_iff new run known step running stopped).1 0 call left same
  exact ⟨last.1, last.2, d, turn, new, run, known, step, running, stopped, elsewhere,
    past, x, later, whole, given, robs.mp elsewhere⟩

end Hall

end TaskQueue
