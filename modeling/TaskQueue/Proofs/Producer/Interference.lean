import TaskQueue.Proofs.Producer.Ownership
import TaskQueue.Proofs.Producer.Settling

/-!
# Sessions leave each other alone

A command of a session is handled in several steps: a task is given up and the engine is told about
it, or tasks are looked up one after the other and claimed. When nobody else does anything in
between, it touches no task that another session holds.

Results:
1. `Finishes.looking`, `Finishes.settling`: what the rest of a command does, from any of its steps
   on.
2. `Service.exists_handles`: every command is handled in the end.
3. `Service.handles_apart`: giving a task up, and claiming tasks, changes nothing of what others
   hold.
-/

namespace TaskQueue

/-- The task that a command gives up. -/
def Command.givesUp : Command → Option TaskId
  | .nack id _ => some id
  | .error id => some id
  | _ => none

namespace Service

/-- What a session does until it reads the next frame, while nobody else does anything. -/
inductive Finishes (s : SessionId) : Service → Duty → Service → Prop
  | reads {v : Service} : Finishes s v (.reading s) v
  | step {v v' w : Service} {d d' : Duty} {wall : UInt64} {now : Nat} : d ≠ .reading s →
      d.step wall now v = some (.next v' d') → Finishes s v' d' w → Finishes s v d w

/-- A session handles a command without being interrupted. -/
def Handles (v : Service) (s : SessionId) (command : Command) (w : Service) : Prop :=
  ∃ wall v' d, Duty.obey wall v s command = .next v' d ∧ Finishes s v' d w

end Service

/-! ## 1. The rest of a command -/

namespace Call

/-- A call that settles a task carries out an order. -/
theorem Settles.fits {c : Call Bool} {id : TaskId} (settles : c.Settles id) : c.Fits := by
  have order {op : Operation Bool} (settles : op.Settles id) : op.IsOrder := by
    obtain ⟨now, rfl⟩ | ⟨requeue, rfl⟩ := settles
    · exact Operation.isOrder_acknowledge now id
    · exact Operation.isOrder_cancel id requeue
  cases c with
  | starting op => exact order settles
  | entering body limit =>
    obtain ⟨op, own, same⟩ := settles
    exact ⟨op, order own, same⟩
  | writing rest limit => cases settles
  | finished result => exact trivial

theorem conclude_finished (e : Engine) (result : Except Failure (Bool × Aftermath)) :
    ∃ e' r, conclude e result = (e', .finished r) := by
  cases result <;> exact ⟨_, _, rfl⟩

end Call

namespace Service

variable {v w : Service} {s : SessionId} {d : Duty} {command : Command}

namespace Finishes

theorem reading (finishes : Finishes s v (.reading s) w) : w = v := by
  cases finishes with
  | reads => rfl
  | step goesOn => exact absurd rfl goesOn

/-- The first of the steps that are left. -/
theorem next (finishes : Finishes s v d w) (goesOn : d ≠ .reading s) :
    ∃ wall now v' d', d.step wall now v = some (.next v' d') ∧ Finishes s v' d' w := by
  cases finishes with
  | reads => exact absurd rfl goesOn
  | step _ step rest => exact ⟨_, _, _, _, step, rest⟩

/-- Tasks are looked up, and those that run are claimed. -/
theorem looking {left found : List TaskId} (finishes : Finishes s v (.looking s left found) w) :
    ∃ running, w = { v with producer := v.producer.claim s running } ∧
      ∀ id, id ∈ running ↔ id ∈ found ∨ id ∈ left ∧ v.engine.store.committed.Runs id := by
  induction left generalizing found with
  | nil =>
    obtain ⟨wall, now, v', d', step, rest⟩ := finishes.next nofun
    cases step
    exact ⟨found, rest.reading, by simp⟩
  | cons id left ih =>
    obtain ⟨wall, now, v', d', step, rest⟩ := finishes.next nofun
    rw [Duty.step] at step
    cases looked : v.isRunning id with
    | error failure => cases looked
    | ok running =>
      rw [looked] at step
      have runs : running = true ↔ v.engine.store.committed.Runs id := by
        rw [← isRunning_iff, looked, Except.ok.injEq]
      cases running with
      | true =>
        cases step
        obtain ⟨all, claimed, member⟩ := ih rest
        refine ⟨all, claimed, fun other => ?_⟩
        rw [member, List.mem_append, List.mem_singleton, List.mem_cons]
        by_cases own : other = id
        · simp [own, runs.mp rfl]
        · simp [own]
      | false =>
        cases step
        obtain ⟨all, claimed, member⟩ := ih rest
        refine ⟨all, claimed, fun other => ?_⟩
        rw [member, List.mem_cons]
        by_cases own : other = id
        · have idle : ¬ v.engine.store.committed.Runs id := by simp [← runs]
          simp [own, idle]
        · simp [own]

/-- The engine settles one task, and leaves the others as they are. -/
theorem settling {call : Call Bool} {id : TaskId} (finishes : Finishes s v (.settling s call) w)
    (settles : call.Settles id) (h : v.engine.store.committed.WellFormed) :
    w.producer = v.producer ∧ ∀ other, other ≠ id →
      w.engine.store.committed.tasks.get? other = v.engine.store.committed.tasks.get? other := by
  generalize waits : Duty.settling s call = d at finishes
  induction finishes generalizing call with
  | reads => cases waits
  | step _ step rest ih =>
    subst waits
    rw [Duty.step] at step
    rcases Duty.proceed_cases step with ⟨ended, done⟩ | ⟨engine, call', went, goesOn⟩
    · cases done
      rw [rest.reading]
      exact ⟨rfl, fun _ _ => rfl⟩
    · cases goesOn
      have formed := ((Call.step_fits settles.fits went).1.commits.follows h).wellFormed
      obtain ⟨producer, others⟩ := ih (settles.step_cases went).1 formed rfl
      exact ⟨producer, fun other differs =>
        (others other differs).trans (settles.leaves h went differs)⟩

end Finishes

/-! ## 2. Every command is handled -/

theorem exists_looking (v : Service) (s : SessionId) (left found : List TaskId) :
    ∃ w, Finishes s v (.looking s left found) w := by
  induction left generalizing found with
  | nil => exact ⟨_, @Finishes.step _ _ _ _ _ _ 0 0 nofun rfl .reads⟩
  | cons id left ih =>
    obtain ⟨running, looked⟩ : ∃ running, v.isRunning id = .ok running := ⟨_, v.isRunning_eq id⟩
    obtain ⟨w, rest⟩ := ih (if running then found ++ [id] else found)
    refine ⟨w, @Finishes.step _ _ _ _ _ _ 0 0 nofun ?_ rest⟩
    rw [Duty.step, looked]
    cases running <;> rfl

/-- A call that settles a task waits for the open section at most, and then for as long as its limit
says. -/
theorem exists_settling (v : Service) (s : SessionId) (call : Call Bool) {id : TaskId}
    (settles : call.Settles id) : ∃ w, Finishes s v (.settling s call) w := by
  have goesOn (call : Call Bool) : Duty.settling s call ≠ .reading s := by rintro ⟨⟩
  have settled (v : Service) (result : Except Failure Bool) :
      Finishes s v (.settling s (.finished result)) v :=
    @Finishes.step _ _ _ _ _ _ 0 0 (goesOn _) rfl .reads
  have entering (v : Service) (body : Action (Bool × Aftermath)) (limit : Nat) :
      ∃ w, Finishes s v (.settling s (.entering body limit)) w := by
    obtain ⟨engine, result, step⟩ : ∃ engine result,
        (Call.entering body limit).step limit v.engine = some (engine, .finished result) := by
      rw [Call.step]
      split
      · obtain ⟨engine, result, ends⟩ := Call.conclude_finished
          { v.engine with store := (v.engine.store.isolated body).2 }
          (v.engine.store.isolated body).1
        exact ⟨engine, result, congrArg some ends⟩
      · exact ⟨_, _, if_pos (Nat.le_refl limit)⟩
    refine ⟨_, @Finishes.step _ _ _ _ _ _ 0 limit (goesOn _) ?_ (settled { v with engine } result)⟩
    simp [Duty.step, Duty.proceed, Call.result?, step]
  cases call with
  | finished result => exact ⟨v, settled v result⟩
  | entering body limit => exact entering v body limit
  | writing rest limit => cases settles
  | starting op =>
    obtain ⟨w, rest⟩ := entering v op.body (0 + v.engine.store.settings.lockTimeout.toNat)
    refine ⟨w, @Finishes.step _ _ _ _ _ _ 0 0 (goesOn _) ?_ rest⟩
    simp [Duty.step, Duty.proceed, Call.result?, Call.step, settles.isolated]

theorem exists_settle (v : Service) (s : SessionId) (id : TaskId) (requeue : Bool) :
    ∃ w, Finishes s { v with producer := (Duty.settle v.producer s id requeue).1 }
      (Duty.settle v.producer s id requeue).2 w := by
  unfold Duty.settle
  simp only
  split
  · exact exists_settling _ s (.starting (.cancel id requeue)) (.inr ⟨requeue, rfl⟩)
  · exact ⟨_, .reads⟩

/-- Every command but a request for a task is handled in the end. -/
theorem exists_handles (v : Service) (s : SessionId) (other : command ≠ .ready) :
    ∃ w, v.Handles s command w := by
  cases command with
  | ready => exact absurd rfl other
  | ack id =>
    obtain ⟨w, rest⟩ := exists_settling { v with producer := (v.producer.release s id).2 } s
      (.starting (.acknowledge 0 id)) (.inl ⟨0, rfl⟩)
    exact ⟨w, 0, _, _, rfl, rest⟩
  | nack id requeue =>
    obtain ⟨w, rest⟩ := exists_settle v s id requeue
    exact ⟨w, 0, _, _, rfl, rest⟩
  | error id =>
    obtain ⟨w, rest⟩ := exists_settle v s id false
    exact ⟨w, 0, _, _, rfl, rest⟩
  | recover ids =>
    obtain ⟨w, rest⟩ := exists_looking v s ids []
    exact ⟨w, 0, _, _, rfl, rest⟩

/-! ## 3. Tasks of other sessions -/

/-- What a session that gives a task up, or recovers some, does to the others. -/
structure Apart (v : Service) (s : SessionId) (command : Command) (w : Service) : Prop where
  /-- Others keep what they hold, and its records. -/
  held : ∀ id t, v.producer.holder id = some t → t ≠ s → w.producer.holder id = some t ∧
    w.engine.store.committed.tasks.get? id = v.engine.store.committed.tasks.get? id
  /-- Nothing at all comes of giving up a task that another session holds. -/
  refused : ∀ id t, command.givesUp = some id → v.producer.holder id = some t → t ≠ s → w = v
  /-- Recovering tasks does nothing in the engine. -/
  still : ∀ ids, command = .recover ids → w.engine = v.engine
  /-- A session that is open takes those that run and that nobody holds. -/
  takes : ∀ ids, command = .recover ids → v.producer.isClosed s = false → ∀ id,
    w.producer.holder id = some s ↔ v.producer.holder id = some s ∨
      id ∈ ids ∧ v.engine.store.committed.Runs id ∧ v.producer.holder id = none
  /-- Whatever it does not take stays with its holder, if there is one. -/
  leaves : ∀ ids, command = .recover ids → ∀ id, w.producer.holder id ≠ v.producer.holder id →
    v.producer.isClosed s = false ∧ w.producer.holder id = some s
  /-- Giving a task up has no bearing on any other. -/
  others : ∀ id, command.givesUp = some id → ∀ other, other ≠ id →
    w.producer.holder other = v.producer.holder other ∧
      w.engine.store.committed.tasks.get? other = v.engine.store.committed.tasks.get? other

/-- A task that another session holds is not given up. -/
theorem settle_refused {p : Producer} {id : TaskId} {t : SessionId} (held : p.holder id = some t)
    (differs : t ≠ s) (requeue : Bool) : Duty.settle p s id requeue = (p, .reading s) := by
  unfold Producer.holder at held
  simp [Duty.settle, Producer.release, held, differs]

/-- Giving a task up changes nothing else, and nothing at all if another session holds it. -/
theorem Finishes.settle {id : TaskId} {requeue : Bool} (h : v.engine.store.committed.WellFormed)
    (finishes : Finishes s { v with producer := (Duty.settle v.producer s id requeue).1 }
      (Duty.settle v.producer s id requeue).2 w) :
    (∀ t, v.producer.holder id = some t → t ≠ s → w = v) ∧ ∀ other, other ≠ id →
      w.producer.holder other = v.producer.holder other ∧
        w.engine.store.committed.tasks.get? other = v.engine.store.committed.tasks.get? other := by
  constructor
  · intro t held differs
    rw [settle_refused held differs] at finishes
    exact finishes.reading
  · intro other differs
    have released : (v.producer.release s id).2.holder other = v.producer.holder other := by
      rcases v.producer.release_cases s id with same | ⟨-, erased⟩
      · rw [same]
      · rw [erased, Producer.holder, Table.get?_erase, if_neg differs, Producer.holder]
    unfold Duty.settle at finishes
    simp only at finishes
    split at finishes
    · have settles : (Operation.cancel id requeue).Settles id := .inr ⟨requeue, rfl⟩
      obtain ⟨producer, others⟩ := finishes.settling settles h
      rw [producer]
      exact ⟨released, others other differs⟩
    · rw [finishes.reading]
      exact ⟨released, rfl⟩

theorem apart_settle {id : TaskId} (own : command.givesUp = some id)
    (left : (∀ t, v.producer.holder id = some t → t ≠ s → w = v) ∧ ∀ other, other ≠ id →
      w.producer.holder other = v.producer.holder other ∧
        w.engine.store.committed.tasks.get? other = v.engine.store.committed.tasks.get? other) :
    Apart v s command w := by
  obtain ⟨refused, others⟩ := left
  have settles (ids : List TaskId) : command ≠ .recover ids := by
    rintro rfl
    cases own
  refine ⟨fun other t held differs => ?_, fun other t same held differs => ?_,
    fun ids recovers => absurd recovers (settles ids),
    fun ids recovers => absurd recovers (settles ids),
    fun ids recovers => absurd recovers (settles ids), fun other same => ?_⟩
  · by_cases same : other = id
    · subst same
      rw [refused t held differs]
      exact ⟨held, rfl⟩
    · obtain ⟨holder, record⟩ := others other same
      exact ⟨holder.trans held, record⟩
  · obtain rfl := Option.some.inj (own.symm.trans same)
    exact refused t held differs
  · obtain rfl := Option.some.inj (own.symm.trans same)
    exact others

/-- Who holds a task after some were recovered. -/
theorem holder_recover {ids running : List TaskId} (p : Producer) {c : Contents}
    (member : ∀ id, id ∈ running ↔ id ∈ ids ∧ c.Runs id) (id : TaskId) :
    (p.isClosed s = false ∧ (id ∈ ids ∧ c.Runs id) ∧ p.holder id = none ∧
        (p.claim s running).holder id = some s) ∨
      ¬ (p.isClosed s = false ∧ (id ∈ ids ∧ c.Runs id) ∧ p.holder id = none) ∧
        (p.claim s running).holder id = p.holder id := by
  cases closed : p.isClosed s with
  | true =>
    have same : p.claim s running = p := by simp [Producer.claim, closed]
    rw [same]
    exact .inr ⟨by rintro ⟨⟨⟩, -⟩, rfl⟩
  | false =>
    rw [Producer.holder_claim closed]
    split
    · next free => exact .inl ⟨rfl, (member id).mp free.1, free.2, rfl⟩
    · next kept =>
      exact .inr ⟨fun free => kept ⟨(member id).mpr free.2.1, free.2.2⟩, rfl⟩

theorem apart_recover {ids : List TaskId} (finishes : Finishes s v (.looking s ids []) w) :
    Apart v s (.recover ids) w := by
  obtain ⟨running, rfl, member⟩ := finishes.looking
  have holder := @holder_recover s ids running v.producer v.engine.store.committed
    (fun id => (member id).trans (by simp))
  refine ⟨fun id t held _ => ⟨?_, rfl⟩, nofun, fun _ _ => rfl, ?_, fun _ _ id differs => ?_, nofun⟩
  · rcases holder id with ⟨-, -, free, -⟩ | ⟨-, kept⟩
    · rw [held] at free
      cases free
    · exact kept.trans held
  · rintro _ ⟨⟩ opened id
    rcases holder id with ⟨-, listed, free, taken⟩ | ⟨other, kept⟩
    · exact ⟨fun _ => .inr ⟨listed.1, listed.2, free⟩, fun _ => taken⟩
    · rw [kept]
      refine ⟨.inl, fun held => held.resolve_right fun free => other ?_⟩
      exact ⟨opened, ⟨free.1, free.2.1⟩, free.2.2⟩
  · rcases holder id with ⟨opened, -, -, taken⟩ | ⟨-, kept⟩
    · exact ⟨opened, taken⟩
    · exact absurd kept differs

/-- A session gives a task up, or recovers tasks, and is not interrupted. That comes to an end, and
no task of another session is touched. -/
theorem handles_apart (h : v.engine.store.committed.WellFormed)
    (kind : command.givesUp.isSome = true ∨ ∃ ids, command = .recover ids) :
    (∃ w, v.Handles s command w) ∧ ∀ w, v.Handles s command w → Apart v s command w := by
  constructor
  · refine exists_handles v s ?_
    rintro rfl
    rcases kind with ends | ⟨ids, recovers⟩
    · cases ends
    · cases recovers
  · rintro w ⟨wall, v', d, obeys, finishes⟩
    cases command with
    | nack id requeue =>
      cases obeys
      exact apart_settle rfl (finishes.settle h)
    | error id =>
      cases obeys
      exact apart_settle rfl (finishes.settle h)
    | recover ids =>
      cases obeys
      exact apart_recover finishes
    | ready | ack _ =>
      rcases kind with ends | ⟨ids, recovers⟩
      · cases ends
      · cases recovers

/-- A session asks for four tasks: one that another session holds, one that runs and that nobody
holds, twice, one that is queued, and one that is unknown. It gets the second. When it then gives
the first one up, nothing happens. -/
theorem handles_apart_recover :
    let task (n : Nat) : Task := Task.new (.ofNat n) 0 "job" default
    let queued := (Contents.empty.answer (.queue [task 1, task 2, task 3])).2
    let first := (queued.answer (.setState (task 1) .running)).2
    let store : Store := { Store.new .inMemory with
      committed := (first.answer (.setState (task 2) .running)).2 }
    let producer : Producer := { Producer.new .standard "localhost:7000" with
      sessions := [⟨0, false, [], true⟩, ⟨1, false, [], true⟩]
      owners := Table.empty.insert (.ofNat 1) 0, connected := 2 }
    let v : Service := ⟨{ Engine.new .inMemory .standard with store }, .new [], producer⟩
    let recover : Command := .recover [.ofNat 1, .ofNat 2, .ofNat 2, .ofNat 3, .ofNat 9]
    store.committed.WellFormed ∧
      ∃ w, v.Handles 1 recover w ∧ Apart v 1 recover w ∧
        (w.producer.holder (.ofNat 1) = some 0 ∧ w.producer.holder (.ofNat 2) = some 1) ∧
        (w.producer.holder (.ofNat 3) = none ∧ w.producer.holder (.ofNat 9) = none) ∧
        ∃ u, w.Handles 1 (.error (.ofNat 1)) u ∧ u = w := by
  intro task queued first store producer v recover
  have reachable : store.committed.Reachable :=
    .answer (.answer (.answer .empty trivial) nofun) nofun
  obtain ⟨⟨w, handles⟩, apart⟩ :=
    @handles_apart v 1 recover reachable.wellFormed (.inr ⟨_, rfl⟩)
  have apart := apart w handles
  have stays (id : TaskId) (idle : v.isRunning id = .ok false)
      (free : v.producer.holder id = none) : w.producer.holder id = none := by
    by_contra changed
    obtain ⟨-, taken⟩ := apart.leaves _ rfl id (by rwa [free])
    rcases (apart.takes _ rfl rfl id).mp taken with held | ⟨-, runs, -⟩
    · rw [free] at held
      cases held
    · rw [isRunning_iff.mpr runs] at idle
      cases idle
  have kept : w.producer.holder (.ofNat 1) = some 0 := (apart.held _ 0 (by decide) (by decide)).1
  have runs : v.engine.store.committed.Runs (.ofNat 2) := isRunning_iff.mp (by decide +kernel)
  have taken : w.producer.holder (.ofNat 2) = some 1 :=
    (apart.takes _ rfl rfl _).mpr (.inr ⟨by decide, runs, by decide⟩)
  have formed : w.engine.store.committed.WellFormed := by
    rw [apart.still _ rfl]
    exact reachable.wellFormed
  obtain ⟨⟨u, gives⟩, again⟩ := @handles_apart w 1 (.error (.ofNat 1)) formed (.inl rfl)
  exact ⟨reachable.wellFormed, w, handles, apart, ⟨kept, taken⟩,
    ⟨stays _ (by decide +kernel) (by decide), stays _ (by decide +kernel) (by decide)⟩, u, gives,
    (again u gives).refused _ 0 rfl kept (by decide)⟩

end Service

end TaskQueue
