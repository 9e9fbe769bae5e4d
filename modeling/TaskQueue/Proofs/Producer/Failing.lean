import TaskQueue.Proofs.Producer.Hall
import TaskQueue.Proofs.Producer.Settling

/-!
# Calls that fail

A session gives a task up before the engine is told about it. The engine may fail, since a section
stays open for too long: then the task is as it was, but nobody holds it any more.

Results:
1. `Duty.obey_settles`: a session that reports on a task that it holds gives it up first.
   `Call.Settles.step_idle`: a call that settles a task and fails leaves no trace.
2. `Awaits.run`, `Run.awaits`: runs in which a duty waits for its call, while the others take their
   steps. Every run is one until the call is over.
3. `Awaits.idle`: the steps of a call that fails leave no trace, whatever the others do in between.
4. `forfeits_iff`: a session gets a task back whose call has failed if and only if it takes it once
   more.
-/

namespace TaskQueue

/-! ## 1. Reports -/

/-- A service in which nobody holds a task any more. -/
def Service.without (v : Service) (id : TaskId) : Service :=
  { v with producer := { v.producer with owners := v.producer.owners.erase id } }

@[simp]
theorem Service.holder_without (v : Service) (id other : TaskId) :
    (v.without id).producer.holder other =
      if other = id then none else v.producer.holder other :=
  Table.get?_erase ..

/-- A session that reports on a task that it holds gives it up first. -/
theorem Duty.obey_settles (wall : UInt64) {v : Service} {s : SessionId} {id : TaskId}
    {command : Command} (held : v.producer.holder id = some s)
    (settles : command.settles = some id) : ∃ op, op.Settles id ∧
      obey wall v s command = .next (v.without id) (.settling s (.starting op)) := by
  have released : v.producer.release s id =
      (true, { v.producer with owners := v.producer.owners.erase id }) := by
    unfold Producer.holder at held
    simp [Producer.release, held]
  cases command with
  | ack own =>
    cases settles
    exact ⟨_, .inl ⟨wall, rfl⟩, by rw [obey, released]; rfl⟩
  | nack own requeue =>
    cases settles
    exact ⟨_, .inr ⟨requeue, rfl⟩, by simp [obey, settle, released, Service.without]⟩
  | error own =>
    cases settles
    exact ⟨_, .inr ⟨false, rfl⟩, by simp [obey, settle, released, Service.without]⟩
  | ready | recover _ => cases settles

/-- Nothing has happened, except that a section may have been opened and rolled back. -/
def Engine.Idles (e e' : Engine) : Prop :=
  ∃ next, e' = { e with store := { e.store with nextSection := next } }

theorem Engine.idles_refl (e : Engine) : e.Idles e :=
  ⟨e.store.nextSection, rfl⟩

/-- A step of a call that settles a task leaves no trace, unless the call succeeds. -/
theorem Call.Settles.step_idle {e e' : Engine} {c c' : Call Bool} {id : TaskId} {now : Nat}
    (settles : c.Settles id) (step : c.step now e = some (e', c'))
    (failing : c'.result? = none ∨ c'.hasFailed = true) : e.Idles e' := by
  cases step_does step with
  | waits | givesUp => exact e.idles_refl
  | starts outside =>
    rw [settles.isolated] at outside
    cases outside
  | @enters body limit free =>
    have closed : e.store.opened = none := by simpa [Store.free] using free
    rw [Store.isolated_eq free] at failing ⊢
    rcases outcome : body.run.exec e.store.committed with ⟨result, after⟩
    rw [outcome] at failing
    cases result with
    | ok r => rcases failing with goesOn | failed <;> contradiction
    | error failure =>
      -- What was written in the section is lost with it.
      refine ⟨e.store.nextSection + 1, ?_⟩
      rw [← closed]
      rfl
  | writes | refused => cases settles

/-- A call that takes a step is not over. -/
theorem Call.result?_of_step {e e' : Engine} {c c' : Call Bool} {now : Nat}
    (step : c.step now e = some (e', c')) : c.result? = none := by
  cases c with
  | finished _ => cases step
  | starting _ | entering _ _ | writing _ _ => rfl

/-! ## 2. Waiting for a call -/

/-- A service in which a duty waits for a call, with the duties in front of it and behind it. -/
structure Pending where
  service : Service
  front : List Duty
  call : Call Bool
  back : List Duty

/-- The service with all its duties. -/
def Pending.hall (wait : Call Bool → Duty) (f : Pending) : Hall :=
  ⟨f.service, f.front ++ wait f.call :: f.back⟩

/-- A kind of duty that waits for a call, and what follows when the call is over. -/
def Duty.Waits (wait : Call Bool → Duty) (done : Duty) : Prop :=
  ∀ wall now v call, (wait call).step wall now v = proceed now v call wait (.next v done)

theorem Duty.waits_settling (s : SessionId) : Waits (.settling s) (.reading s) :=
  fun _ _ _ _ => rfl

theorem Duty.waits_returning (s : SessionId) (left : List TaskId) :
    Waits (.returning s · left) (giveBack s left) :=
  fun _ _ _ _ => rfl

/-- A duty whose call is over goes on. -/
theorem Duty.Waits.goesOn {wait : Call Bool → Duty} {done : Duty} (waits : Waits wait done)
    {call : Call Bool} (ended : call.result?.isSome = true) (wall : UInt64) (now : Nat)
    (v : Service) : (wait call).step wall now v = some (.next v done) := by
  rw [waits, proceed, if_pos ended]

namespace Hall

/-- A step of someone else than a duty that waits. -/
inductive Others : Pending → Moment → Pending → Prop
  | front {v : Service} {ahead behind back : List Duty} {call : Call Bool} {d : Duty}
      {turn : Turn Service Duty} {wall : UInt64} {now : Nat} : d.step wall now v = some turn →
      Others ⟨v, ahead ++ d :: behind, call, back⟩ ⟨some d, v, turn.state⟩
        ⟨turn.state, ahead ++ turn.self.toList ++ behind, call, back ++ turn.started⟩
  | back {v : Service} {front ahead behind : List Duty} {call : Call Bool} {d : Duty}
      {turn : Turn Service Duty} {wall : UInt64} {now : Nat} : d.step wall now v = some turn →
      Others ⟨v, front, call, ahead ++ d :: behind⟩ ⟨some d, v, turn.state⟩
        ⟨turn.state, front, call, ahead ++ turn.self.toList ++ behind ++ turn.started⟩
  | outside {v w : Service} {front back : List Duty} {call : Call Bool} {shutdown : Bool} :
      w.engine.store.committed.WellFormed → w.producer = { v.producer with shutdown } →
      Others ⟨v, front, call, back⟩ ⟨none, v, w⟩ ⟨w, front, call, back⟩

/-- Any number of steps while a duty waits for its call, with those of the call apart. -/
inductive Awaits (wait : Call Bool → Duty) (start : Pending) :
    List Moment → List Moment → Pending → Prop
  | nil : Awaits wait start [] [] start
  | own {own h : List Moment} {v : Service} {front back : List Duty} {call call' : Call Bool}
      {engine : Engine} {now : Nat} : Awaits wait start own h ⟨v, front, call, back⟩ →
      call.step now v.engine = some (engine, call') →
      Awaits wait start (own ++ [⟨some (wait call), v, { v with engine }⟩])
        (h ++ [⟨some (wait call), v, { v with engine }⟩]) ⟨{ v with engine }, front, call', back⟩
  | others {own h : List Moment} {f g : Pending} {x : Moment} : Awaits wait start own h f →
      Others f x g → Awaits wait start own (h ++ [x]) g

variable {wait : Call Bool → Duty} {done : Duty} {start f g : Pending}
  {own h past later : List Moment} {x : Moment} {s t : SessionId} {id : TaskId}

theorem Others.step (other : Others f x g) (wait : Call Bool → Duty) :
    Step (f.hall wait) x (g.hall wait) := by
  cases other with
  | @front v ahead behind back call d turn wall now went =>
    have step := @Step.duty v ahead (behind ++ wait call :: back) d turn wall now went
    simpa [Pending.hall] using step
  | @back v front ahead behind call d turn wall now went =>
    have step := @Step.duty v (front ++ wait call :: ahead) behind d turn wall now went
    simpa [Pending.hall] using step
  | outside left same => exact .outside left same

/-- A step of the call is one of the duty that waits for it. -/
theorem Step.call {v : Service} {front back : List Duty} {call call' : Call Bool} {engine : Engine}
    {now : Nat} (waits : Duty.Waits wait done)
    (went : call.step now v.engine = some (engine, call')) :
    Step (Pending.hall wait ⟨v, front, call, back⟩) ⟨some (wait call), v, { v with engine }⟩
      (Pending.hall wait ⟨{ v with engine }, front, call', back⟩) := by
  have goesOn : (wait call).step 0 now v = some (.next { v with engine } (wait call')) := by
    rw [waits, Duty.proceed, Call.result?_of_step went, went]
    rfl
  have step := @Step.duty v front back _ _ _ _ goesOn
  simpa [Pending.hall, Turn.next] using step

theorem Awaits.run (waits : Duty.Waits wait done) (awaits : Awaits wait start own h f) :
    Run (start.hall wait) h (f.hall wait) := by
  induction awaits with
  | nil => exact .nil
  | own _ went ih => exact ih.snoc (.call waits went)
  | others _ other ih => exact ih.snoc (other.step wait)

/-- Every step is one of the others, or of the call, or the call is over. -/
theorem Step.awaits {g : Hall} (waits : Duty.Waits wait done) (step : Step (f.hall wait) x g)
    (awaits : Awaits wait start own h f) :
    (∃ own f, Awaits wait start own (h ++ [x]) f ∧ g = f.hall wait) ∨
      f.call.result?.isSome = true := by
  obtain ⟨v, front, call, back⟩ := f
  generalize whole : Pending.hall wait ⟨v, front, call, back⟩ = hall at step
  cases step with
  | @duty w ahead behind d turn wall now went =>
    simp only [Pending.hall, Hall.mk.injEq] at whole
    obtain ⟨rfl, whole⟩ := whole
    -- The duty that takes the step is the one that waits, or stands in front of it, or behind it.
    rcases append_cons_cases whole with ⟨rfl, rfl, rfl⟩ | ⟨between, rfl, rfl⟩ | ⟨between, rfl, rfl⟩
    · rw [waits] at went
      rcases Duty.proceed_cases went with ⟨ended, rfl⟩ | ⟨engine, call', goes, rfl⟩
      · exact .inr ended
      · exact .inl ⟨_, _, awaits.own goes, by simp [Pending.hall, Turn.next]⟩
    · exact .inl ⟨_, _, awaits.others (.front went), by simp [Pending.hall]⟩
    · exact .inl ⟨_, _, awaits.others (.back went), by simp [Pending.hall]⟩
  | @outside w w' duties shutdown left same =>
    cases whole
    exact .inl ⟨_, _, awaits.others (.outside left same), rfl⟩

theorem Run.eq_of_nil {f g : Hall} (run : Run f [] g) : g = f := by
  generalize none : ([] : List Moment) = h at run
  cases run with
  | nil => rfl
  | snoc _ _ => simp at none

/-- In every run a duty waits for its call until the call is over. -/
theorem Run.awaits {g : Hall} (waits : Duty.Waits wait done) (run : Run (start.hall wait) h g) :
    ∃ during later own f, h = during ++ later ∧ Awaits wait start own during f ∧
      Run (f.hall wait) later g ∧ (later = [] ∨ f.call.result?.isSome = true) := by
  induction run with
  | nil => exact ⟨[], [], [], start, rfl, .nil, .nil, .inl rfl⟩
  | @snoc h f g x _ step ih =>
    obtain ⟨during, later, own, f, rfl, awaits, rest, rfl | ended⟩ := ih
    · obtain rfl := rest.eq_of_nil
      rcases step.awaits waits awaits with ⟨own, f, goesOn, rfl⟩ | ended
      · exact ⟨during ++ [x], [], own, f, by simp, goesOn, .nil, .inl rfl⟩
      · exact ⟨during, [x], own, _, by simp, awaits, .snoc .nil step, .inr ended⟩
    · exact ⟨during, later ++ [x], own, f, by simp, awaits, rest.snoc step, .inr ended⟩

/-! ## 3. Failures -/

/-- At a moment the engine only opened a section and rolled it back, at most, and the rest of the
service is untouched. -/
def Idle (x : Moment) : Prop :=
  ∃ engine, x.before.engine.Idles engine ∧ x.after = { x.before with engine }

/-- At a moment a task is left as it is. -/
def Spares (x : Moment) (id : TaskId) : Prop :=
  x.after.engine.store.committed.tasks.get? id = x.before.engine.store.committed.tasks.get? id

theorem Idle.spares (idle : Idle x) (id : TaskId) : Spares x id := by
  obtain ⟨engine, ⟨next, rfl⟩, same⟩ := idle
  rw [Spares, same]

theorem Run.spares {f g : Hall} (run : Run f h g) (spares : ∀ x ∈ h, Spares x id) :
    g.service.engine.store.committed.tasks.get? id =
      f.service.engine.store.committed.tasks.get? id := by
  induction run with
  | nil => rfl
  | @snoc h g g' x _ step ih =>
    have last := spares x (by simp)
    rw [Spares, step.after, step.before] at last
    rw [last, ih fun y member => spares y (List.mem_append_left [x] member)]

theorem Others.call (other : Others f x g) : g.call = f.call := by
  cases other <;> rfl

/-- The steps of a call that fails leave no trace. -/
theorem Awaits.idle (awaits : Awaits wait start own h f) (settles : start.call.Settles id) :
    f.call.Settles id ∧
      (f.call.result? = none ∨ f.call.hasFailed = true → ∀ x ∈ own, Idle x) := by
  induction awaits with
  | nil => exact ⟨settles, fun _ _ member => absurd member List.not_mem_nil⟩
  | @own own h v front back call call' engine now _ went ih =>
    obtain ⟨settles, earlier⟩ := ih
    refine ⟨(settles.step_cases went).1, fun failing x member => ?_⟩
    rcases List.mem_append.mp member with before | last
    · exact earlier (.inl (Call.result?_of_step went)) x before
    · obtain rfl := List.mem_singleton.mp last
      exact ⟨engine, settles.step_idle went failing, rfl⟩
  | others _ other ih =>
    rw [other.call]
    exact ih

/-- If a section stays open for too long the call fails, and nothing has happened. -/
theorem Awaits.locked (wait : Call Bool → Duty) {v : Service} {op : Operation Bool}
    (isolated : op.isolated = true) (taken : v.engine.store.free = false)
    (front back : List Duty) : ∃ own f, Awaits wait ⟨v, front, .starting op, back⟩ own own f ∧
      f.call.hasFailed = true ∧ f.service = v := by
  have waits : (Call.starting op).step 0 v.engine =
      some (v.engine, .entering op.body (0 + v.engine.store.settings.lockTimeout.toNat)) := by
    rw [Call.step, if_pos isolated]
  have givesUp := fun limit => show (Call.entering op.body limit).step limit v.engine =
      some (v.engine, .finished (.error (Call.tooLong v.engine))) by
    rw [Call.step, taken, if_neg (by simp), if_pos (Nat.le_refl limit)]
  exact ⟨_, _, (Awaits.nil.own waits).own (givesUp _), rfl, rfl⟩

/-! ## 4. Tasks that are given up -/

/-- A call about a task has failed and left no trace. Unless others touch the task, it is as it was
when the call began. The duty that waited for the call goes on. From then on a session holds the
task, and has it tried again when it leaves, if and only if it took it since it was given up: `past`
is what had happened since then when the call began, and `h` what happened during the call. -/
structure Forfeits (wait : Call Bool → Duty) (done : Duty) (id : TaskId) (past : List Moment)
    (start : Pending) (own h : List Moment) (f : Pending) : Prop where
  idle : ∀ x ∈ own, Idle x
  stored : (∀ x ∈ h, x ∈ own ∨ Spares x id) →
    f.service.engine.store.committed.tasks.get? id =
      start.service.engine.store.committed.tasks.get? id
  goesOn : ∀ wall now, (wait f.call).step wall now f.service = some (.next f.service done)
  holds_iff : ∀ later g t, Run (f.hall wait) later g →
    (g.service.producer.holder id = some t ↔ TakenSince (past ++ h ++ later) t id)
  returns_iff : ∀ later g t wall now, Run (f.hall wait) later g → ∃ producer ids,
    (Duty.leaving t).step wall now g.service =
      some (.next { g.service with producer } (Duty.giveBack t ids)) ∧
    (id ∈ ids ↔ TakenSince (past ++ h ++ later) t id)

/-- A task that nobody holds is forfeited if the engine is told about it and fails. -/
theorem Awaits.forfeits {given : Hall} (awaits : Awaits wait start own h f)
    (waits : Duty.Waits wait done) (settles : start.call.Settles id)
    (failed : f.call.hasFailed = true) (free : given.service.producer.holder id = none)
    (before : Run given past (start.hall wait)) :
    Forfeits wait done id past start own h f := by
  have ended : f.call.result?.isSome = true := by
    unfold Call.hasFailed at failed
    cases result : f.call.result? with
    | none => simp [result] at failed
    | some _ => rfl
  have since : ∀ later g t, Run (f.hall wait) later g →
      (g.service.producer.holder id = some t ↔ TakenSince (past ++ h ++ later) t id) := by
    intro later g t more
    exact ((before.append (awaits.run waits)).append more).holds_iff (by simp [free])
  have idle := (awaits.idle settles).2 (.inr failed)
  refine ⟨idle, fun spares => ?_, fun wall now => waits.goesOn ended wall now _, since,
    fun later g t wall now more => ⟨_, _, rfl, ?_⟩⟩
  · refine (awaits.run waits).spares fun x member => ?_
    exact (spares x member).elim (fun own => (idle x own).spares id) fun spared => spared
  · exact Producer.mem_heldBy.trans (since later g t more)

/-- A task is at stake in a call. In every run a duty waits for the call until it is over, and if the
call fails the task is forfeited. -/
structure AtStake (wait : Call Bool → Duty) (done : Duty) (id : TaskId) (past : List Moment)
    (start : Pending) : Prop where
  awaits : ∀ h g, Run (start.hall wait) h g → ∃ during later own f, h = during ++ later ∧
    Awaits wait start own during f ∧ Run (f.hall wait) later g ∧
    (later = [] ∨ f.call.result?.isSome = true)
  forfeits : ∀ own h f, Awaits wait start own h f → f.call.hasFailed = true →
    Forfeits wait done id past start own h f

theorem Run.atStake {given : Hall} (before : Run given past (start.hall wait))
    (waits : Duty.Waits wait done) (settles : start.call.Settles id)
    (free : given.service.producer.holder id = none) : AtStake wait done id past start where
  awaits _ _ run := run.awaits waits
  forfeits _ _ _ awaits failed := awaits.forfeits waits settles failed free before

/-- A session that reports on a task that it holds gives it up before the engine is told. If the
engine fails, the task is as it was, but the session forfeits it. A session that leaves gives up all
that it holds. If the engine fails to try one of these tasks again, the task is as it was, the
session goes on with the others, and the task is forfeited. -/
theorem forfeits_iff (v : Service) (s : SessionId) (id : TaskId)
    (held : v.producer.holder id = some s) :
    (∀ wall command, command.settles = some id → ∃ op, op.Settles id ∧
      Duty.obey wall v s command = .next (v.without id) (.settling s (.starting op)) ∧
      ∀ front back,
        AtStake (.settling s) (.reading s) id [] ⟨v.without id, front, .starting op, back⟩) ∧
    ∀ wall now, ∃ ids, id ∈ ids ∧
      (Duty.leaving s).step wall now v =
        some (.next { v with producer := (v.producer.close s).2 } (Duty.giveBack s ids)) ∧
      ∀ duties past start left, start.call = .starting (.cancel id true) →
        Run ⟨{ v with producer := (v.producer.close s).2 }, duties⟩ past
          (start.hall (.returning s · left)) →
        AtStake (.returning s · left) (Duty.giveBack s left) id past start := by
  constructor
  · intro wall command settles
    obtain ⟨op, settling, obeys⟩ := Duty.obey_settles wall held settles
    refine ⟨op, settling, obeys, fun front back => ?_⟩
    have free : (v.without id).producer.holder id = none := by simp
    exact Run.nil.atStake (Duty.waits_settling s) settling free
  · intro wall now
    refine ⟨v.producer.heldBy s, Producer.mem_heldBy.mpr held, rfl, ?_⟩
    intro duties past start left begins before
    have free : (v.producer.close s).2.holder id = none := by
      rw [Producer.holder_close, if_pos held]
    have settles : start.call.Settles id := by
      rw [begins]
      exact .inr ⟨true, rfl⟩
    exact before.atStake (Duty.waits_returning s left) settles free

/-- A session holds a running task while a section is open. It reports the task done, or leaves. The
engine gives up waiting, and the task still runs, but nobody holds it. -/
theorem forfeits_iff_locked :
    let id : TaskId := .ofNat 1
    let task : Task := { Task.new id 0 "job" default with state := .running, started := some 0 }
    let store : Store := { Store.new .inMemory with
      committed := Contents.empty.put task, opened := some ⟨0, none⟩ }
    let producer : Producer := { Producer.new .standard "localhost:7000" with
      sessions := [⟨0, false, [], true⟩], owners := Table.empty.insert id 0, connected := 1 }
    let v : Service := ⟨{ Engine.new .inMemory .standard with store }, .new [], producer⟩
    v.producer.holder id = some 0 ∧
    (∃ start own h f, start.service = v.without id ∧ Awaits (.settling 0) start own h f ∧
      Forfeits (.settling 0) (.reading 0) id [] start own h f ∧
      f.service.isRunning id = .ok true ∧ f.service.producer.holder id = none) ∧
    ∃ start own h f, start.service = { v with producer := (v.producer.close 0).2 } ∧
      Awaits (.returning 0 · []) start own h f ∧
      Forfeits (.returning 0 · []) (.parting 0) id [] start own h f ∧
      f.service.isRunning id = .ok true ∧ f.service.producer.holder id = none := by
  intro id task store producer v
  have held : v.producer.holder id = some 0 := by decide
  refine ⟨held, ?_, ?_⟩
  · obtain ⟨op, settles, -, atStake⟩ := (forfeits_iff v 0 id held).1 0 (.ack id) rfl
    have taken : (v.without id).engine.store.free = false := rfl
    obtain ⟨own, f, awaits, failed, same⟩ :=
      Awaits.locked (.settling 0) settles.isolated taken [] []
    refine ⟨_, own, own, f, rfl, awaits, (atStake [] []).forfeits own own f awaits failed, ?_, ?_⟩
    · rw [same]
      decide +kernel
    · rw [same]
      decide +kernel
  · obtain ⟨ids, -, -, atStake⟩ := (forfeits_iff v 0 id held).2 0 0
    let w : Service := { v with producer := (v.producer.close 0).2 }
    have isolated : (Operation.cancel id true).isolated = true := rfl
    have taken : w.engine.store.free = false := rfl
    obtain ⟨own, f, awaits, failed, same⟩ :=
      Awaits.locked (.returning 0 · []) isolated taken [] []
    have forfeited := (atStake _ [] _ [] rfl .nil).forfeits own own f awaits failed
    refine ⟨_, own, own, f, rfl, awaits, forfeited, ?_, ?_⟩
    · rw [same]
      decide +kernel
    · rw [same]
      decide +kernel

end Hall

end TaskQueue
