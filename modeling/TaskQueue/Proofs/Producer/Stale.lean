import TaskQueue.Proofs.Producer.Stranding

/-!
# Tasks that others report done

A task that is reported done by a session that does not hold it is done, but stays with the session
that does: it is stale there, until the session gives it up or is handed it once more. If only one
duty is at work at a time, each task that is held and not stale is running.

Results:
1. `step_grounds`: what a step of a duty preserves, if the other duties rest.
2. `step_rests`: a duty that rests before and after a step has done nothing to the tasks.
-/

namespace TaskQueue

/-! ## 1. Stale tasks -/

/-- Someone who acquires has chosen a task. -/
def Acquirer.hasChosen (a : Acquirer) : Bool :=
  match a.result? with
  | some (.ok (some _)) => true
  | _ => false

theorem Acquirer.hasChosen_of {a : Acquirer} {task : Task}
    (chosen : a.result? = some (.ok (some task))) : a.hasChosen = true := by
  rw [hasChosen, chosen]

/-- A call on its way that reports a task done. -/
def Call.Acknowledges (id : TaskId) : Call Bool → Prop
  | .starting op => ∃ now, op = Operation.acknowledge now id
  | .entering body _ => ∃ now, body = (Operation.acknowledge now id).body
  | .writing _ _ => False
  | .finished _ => True

theorem Call.Acknowledges.step {e e' : Engine} {c c' : Call Bool} {id : TaskId} {now : Nat}
    (acknowledges : c.Acknowledges id) (step : c.step now e = some (e', c')) :
    c'.Acknowledges id := by
  cases Call.step_does step with
  | waits =>
    obtain ⟨wall, rfl⟩ := acknowledges
    exact ⟨wall, rfl⟩
  | starts outside =>
    obtain ⟨wall, rfl⟩ := acknowledges
    cases outside
  | @enters body =>
    generalize e.store.isolated body = done
    obtain ⟨result, store⟩ := done
    cases result <;> trivial
  | givesUp => trivial
  | writes | refused => cases acknowledges

/-- A duty that waits for the world outside, or for a task to be chosen. -/
def Duty.rests : Duty → Bool
  | .accepting | .reading _ | .writing _ => true
  | .selecting _ acquirer => !acquirer.hasChosen
  | _ => false

namespace Hall

/-- The moment at which a task is done, since another session than the one that holds it says so. -/
def Disowned (x : Moment) (s : SessionId) (id : TaskId) : Prop :=
  (∃ t call, t ≠ s ∧ x.duty = some (.settling t call) ∧ call.Acknowledges id) ∧
    x.before.isRunning id = .ok true ∧ x.after.isRunning id = .ok false ∧
    x.after.producer.holder id = some s

/-- The moment at which a task is handed to a session. -/
def HandedTo (x : Moment) (s : SessionId) (id : TaskId) : Prop :=
  ∃ task, x.duty = some (.delivering s task) ∧ task.id = id ∧
    (x.before.producer.deliver s task).1 = .sent

/-- Another session has reported a task done, and the session that held it still does. The task was
not handed to it once more. -/
def Stale (h : List Moment) (s : SessionId) (id : TaskId) : Prop :=
  Since h (Disowned · s id) fun x => x.after.producer.holder id = some s ∧ ¬ HandedTo x s id

variable {h : List Moment} {x : Moment} {s : SessionId} {id : TaskId}

theorem stale_snoc : Stale (h ++ [x]) s id ↔ Disowned x s id ∨
    Stale h s id ∧ x.after.producer.holder id = some s ∧ ¬ HandedTo x s id :=
  since_snoc

/-- A stale task is still held. -/
theorem holds_of_stale (stale : Stale (h ++ [x]) s id) :
    x.after.producer.holder id = some s := by
  rcases stale_snoc.mp stale with ⟨-, -, -, holds⟩ | ⟨-, holds, -⟩ <;> exact holds

/-- Nothing is reported done and nothing handed out at a moment: the task is stale as it was. -/
theorem stale_quiet (holds : x.after.producer.holder id = some s) (owned : ¬ Disowned x s id)
    (kept : ¬ HandedTo x s id) : Stale (h ++ [x]) s id ↔ Stale h s id := by
  rw [stale_snoc]
  exact ⟨fun stale => (stale.resolve_left owned).1, fun stale => .inr ⟨stale, holds, kept⟩⟩

end Hall

/-- A moment at which nothing changes hands, nothing is handed over, and no task starts or stops. -/
structure Moment.Quiet (x : Moment) : Prop where
  holder : ∀ id, x.after.producer.holder id = x.before.producer.holder id
  runs : ∀ id,
    x.after.engine.store.committed.Runs id ↔ x.before.engine.store.committed.Runs id
  kept : ∀ id s, ¬ Hall.HandedTo x s id

/-! ## 2. Steps of duties -/

theorem Service.isRunning_false_iff {v : Service} {id : TaskId} :
    v.isRunning id = .ok false ↔ ¬ v.engine.store.committed.Runs id := by
  rw [← isRunning_iff, isRunning_eq]
  cases (v.engine.store.committed.tasks.get? id).any fun task => task.state = .running <;> simp

namespace Duty

open Hall

/-- Whoever holds a task, somebody else has reported it done. -/
def Loose (h : List Moment) (v : Service) (id : TaskId) : Prop :=
  ∀ s, v.producer.holder id = some s → Stale h s id

/-- A task was chosen for a session and is not delivered yet, or it could not be delivered and the
engine has not been told yet. -/
def Hands (id : TaskId) : Duty → Prop
  | .selecting _ acquirer => ∃ task, acquirer.result? = some (.ok (some task)) ∧ task.id = id
  | .delivering _ task => task.id = id
  | .handingBack call => call.Settles id ∧ (call.result? = none ∨ call.hasFailed = true)
  | _ => False

/-- What a duty at work relies on. The engine is told about tasks that nobody holds, or that another
session holds if they are done. Tasks are recovered and delivered while they run. -/
def Grounded (h : List Moment) (v : Service) : Duty → Prop
  | .settling s call => ∃ id, call.Settles id ∧ (v.producer.holder id = none ∨
      v.producer.holder id ≠ some s ∧ call.Acknowledges id)
  | .looking _ _ found => ∀ id ∈ found, v.engine.store.committed.Runs id
  | .returning _ call left => (∃ id, call.Settles id ∧ v.producer.holder id = none) ∧
      ∀ id ∈ left, v.producer.holder id = none
  | .selecting _ acquirer => ∀ task, acquirer.result? = some (.ok (some task)) →
      v.engine.store.committed.Runs task.id ∧ Loose h v task.id
  | .delivering _ task => v.engine.store.committed.Runs task.id ∧ Loose h v task.id
  | .handingBack call => ∃ id, call.Settles id ∧ Loose h v id
  | _ => True

/-- The duties at work have what they rely on. A task that is held runs if it is not stale, and only
if somebody has it in hand otherwise. -/
structure Grounds (h : List Moment) (v : Service) (duties : List Duty) : Prop where
  grounded : ∀ d ∈ duties, d.Grounded h v
  holds : ∀ id s, Stale h s id → v.producer.holder id = some s
  held : ∀ id s, v.producer.holder id = some s → ¬ Stale h s id →
    v.engine.store.committed.Runs id
  stale : ∀ id s, v.producer.holder id = some s → Stale h s id →
    v.engine.store.committed.Runs id → ∃ d ∈ duties, d.Hands id

variable {wall : UInt64} {now : Nat} {v : Service} {d : Duty} {turn : Turn Service Duty}
  {h : List Moment} {x : Moment} {duties : List Duty} {s : SessionId} {id : TaskId}

theorem grounded_of_rests (rests : d.rests = true) : d.Grounded h v := by
  cases d with
  | selecting s acquirer =>
    intro task chosen
    rw [Duty.rests, Acquirer.hasChosen_of chosen] at rests
    cases rests
  | accepting | reading _ | writing _ => trivial
  | _ => cases rests

theorem not_hands_of_rests (rests : d.rests = true) : ¬ d.Hands id := by
  cases d with
  | selecting s acquirer =>
    rintro ⟨task, chosen, -⟩
    rw [Duty.rests, Acquirer.hasChosen_of chosen] at rests
    cases rests
  | accepting | reading _ | writing _ => exact nofun
  | _ => cases rests

/-- A step that starts and stops no task. Each holder was one before, or has taken a task that
runs. -/
theorem grounds_moved (grounds : Grounds h x.before [d])
    (runs : ∀ id, x.after.engine.store.committed.Runs id ↔ x.before.engine.store.committed.Runs id)
    (grounded : ∀ d' ∈ duties, d'.Grounded (h ++ [x]) x.after)
    (moved : ∀ id s, x.after.producer.holder id = some s →
      (x.before.producer.holder id = some s ∧ ¬ HandedTo x s id ∧
        (d.Hands id → ∃ d' ∈ duties, d'.Hands id)) ∨
      x.after.engine.store.committed.Runs id ∧ ¬ Stale (h ++ [x]) s id) :
    Grounds (h ++ [x]) x.after duties := by
  have owned : ∀ id s, ¬ Disowned x s id := by
    rintro id s ⟨-, before, after, -⟩
    exact Service.isRunning_false_iff.mp after ((runs id).mpr (Service.isRunning_iff.mp before))
  refine ⟨grounded, fun _ _ => holds_of_stale, fun id s holds fresh => ?_,
    fun id s holds stale running => ?_⟩
  · rcases moved id s holds with ⟨held, kept, -⟩ | ⟨running, -⟩
    · rw [stale_quiet holds (owned id s) kept] at fresh
      exact (runs id).mpr (grounds.held id s held fresh)
    · exact running
  · rcases moved id s holds with ⟨held, kept, hands⟩ | ⟨-, fresh⟩
    · rw [stale_quiet holds (owned id s) kept] at stale
      obtain ⟨d', member, inHand⟩ := grounds.stale id s held stale ((runs id).mp running)
      obtain rfl := List.mem_singleton.mp member
      exact hands inHand
    · exact absurd stale fresh

/-- A step that hands nothing over. A task that stops is not held, or it is disowned. -/
theorem grounds_engine (grounds : Grounds h x.before [d])
    (holder : ∀ id, x.after.producer.holder id = x.before.producer.holder id)
    (kept : ∀ id s, ¬ HandedTo x s id) (grounded : ∀ d' ∈ duties, d'.Grounded (h ++ [x]) x.after)
    (stops : ∀ id s, x.before.producer.holder id = some s → ¬ Stale h s id →
      x.before.engine.store.committed.Runs id → ¬ x.after.engine.store.committed.Runs id →
        Disowned x s id)
    (runs : ∀ id s, x.before.producer.holder id = some s → Stale h s id →
      x.after.engine.store.committed.Runs id → ∃ d' ∈ duties, d'.Hands id) :
    Grounds (h ++ [x]) x.after duties := by
  refine ⟨grounded, fun _ _ => holds_of_stale, fun id s holds fresh => ?_,
    fun id s holds stale running => ?_⟩
  · rw [stale_snoc, not_or] at fresh
    have held := (holder id).symm.trans holds
    have before : ¬ Stale h s id := fun stale => fresh.2 ⟨stale, holds, kept id s⟩
    by_contra stopped
    exact fresh.1 (stops id s held before (grounds.held id s held before) stopped)
  · rcases stale_snoc.mp stale with ⟨-, -, stopped, -⟩ | ⟨before, -, -⟩
    · exact absurd running (Service.isRunning_false_iff.mp stopped)
    · exact runs id s ((holder id).symm.trans holds) before running

theorem loose_after (holder : x.after.producer.holder id = x.before.producer.holder id)
    (kept : ∀ s, ¬ HandedTo x s id) (loose : Loose h x.before id) :
    Loose (h ++ [x]) x.after id := by
  intro s holds
  exact stale_snoc.mpr (.inr ⟨loose s (holder.symm.trans holds), holds, kept s⟩)

theorem Grounded.quiet (grounded : d.Grounded h x.before) (quiet : x.Quiet) :
    d.Grounded (h ++ [x]) x.after := by
  have loose {id : TaskId} : Loose h x.before id → Loose (h ++ [x]) x.after id :=
    loose_after (quiet.holder id) (quiet.kept id)
  cases d with
  | settling s call => simpa only [Grounded, quiet.holder] using grounded
  | looking s left found => exact fun id member => (quiet.runs id).mpr (grounded id member)
  | returning s call left => simpa only [Grounded, quiet.holder] using grounded
  | selecting s acquirer =>
    intro task chosen
    exact (grounded task chosen).imp (quiet.runs task.id).mpr loose
  | delivering s task => exact grounded.imp (quiet.runs task.id).mpr loose
  | handingBack call => exact grounded.imp fun _ settles => settles.imp_right loose
  | accepting | reading _ | leaving _ | parting _ | writing _ => trivial

/-- A quiet step leaves the duties at work what they rely on. -/
theorem Grounds.quiet (grounds : Grounds h x.before duties) (quiet : x.Quiet) :
    Grounds (h ++ [x]) x.after duties := by
  have same {id : TaskId} {s : SessionId} (holds : x.after.producer.holder id = some s) :
      Stale (h ++ [x]) s id ↔ Stale h s id := by
    refine stale_quiet holds ?_ (quiet.kept id s)
    rintro ⟨-, before, after, -⟩
    exact Service.isRunning_false_iff.mp after
      ((quiet.runs id).mpr (Service.isRunning_iff.mp before))
  refine ⟨fun d member => (grounds.grounded d member).quiet quiet, fun _ _ => holds_of_stale,
    fun id s holds fresh => ?_, fun id s holds stale running => ?_⟩
  · rw [same holds] at fresh
    exact (quiet.runs id).mpr (grounds.held id s ((quiet.holder id).symm.trans holds) fresh)
  · rw [same holds] at stale
    exact grounds.stale id s ((quiet.holder id).symm.trans holds) stale ((quiet.runs id).mp running)

/-- Other duties that have what they rely on, with the same tasks in hand. -/
theorem Grounds.replace (grounds : Grounds h v duties) {others : List Duty}
    (grounded : ∀ d ∈ others, d.Grounded h v)
    (hands : ∀ id, ∀ d ∈ duties, d.Hands id → ∃ d' ∈ others, d'.Hands id) :
    Grounds h v others := by
  refine ⟨grounded, grounds.holds, grounds.held, fun id s holds stale running => ?_⟩
  obtain ⟨d, member, inHand⟩ := grounds.stale id s holds stale running
  exact hands id d member inHand

/-- Only the duties at work matter. -/
theorem Grounds.active (grounds : Grounds h v duties) {others : List Duty}
    (new : ∀ d ∈ others, d.rests = true ∨ d ∈ duties)
    (old : ∀ d ∈ duties, d.rests = true ∨ d ∈ others) : Grounds h v others := by
  refine grounds.replace (fun d member => ?_) fun id d member hands => ⟨d, ?_, hands⟩
  · exact (new d member).elim grounded_of_rests (grounds.grounded d)
  · exact (old d member).resolve_left fun rests => not_hands_of_rests rests hands

/-- A step of a duty that has nothing to hand over, and touches neither the engine nor the
holders. -/
theorem quiet_of_idle {w : Service} (idle : ∀ s task, d ≠ .delivering s task)
    (committed : w.engine.store.committed = v.engine.store.committed)
    (owners : w.producer.owners = v.producer.owners) :
    (⟨some d, v, w⟩ : Moment).Quiet := by
  refine ⟨fun id => Producer.holder_eq owners id, fun id => by rw [committed], ?_⟩
  rintro id s ⟨task, duty, -⟩
  exact idle s task (Option.some.inj duty)

/-- A step of a duty that has nothing in hand, and touches neither the engine nor the holders. -/
theorem grounds_idle {w : Service} (grounds : Grounds h v [d]) (idle : ∀ id, ¬ d.Hands id)
    (committed : w.engine.store.committed = v.engine.store.committed)
    (owners : w.producer.owners = v.producer.owners)
    (grounded : ∀ d' ∈ duties, d'.Grounded (h ++ [⟨some d, v, w⟩]) w) :
    Grounds (h ++ [⟨some d, v, w⟩]) w duties := by
  have quiet : (⟨some d, v, w⟩ : Moment).Quiet := by
    refine quiet_of_idle ?_ committed owners
    rintro s task rfl
    exact idle task.id rfl
  refine (grounds.quiet quiet).replace grounded fun id d' member hands => ?_
  obtain rfl := List.mem_singleton.mp member
  exact absurd hands (idle id)

theorem giveBack_grounded {ids : List TaskId} (free : ∀ id ∈ ids, v.producer.holder id = none) :
    (giveBack s ids).Grounded h v := by
  cases ids with
  | nil => trivial
  | cons id left =>
    obtain ⟨first, others⟩ := List.forall_mem_cons.mp free
    exact ⟨⟨id, .inr ⟨true, rfl⟩, first⟩, others⟩

/-- What a call that settles a task stops is that task. -/
theorem stops_own {engine : Engine} {call call' : Call Bool} {own : TaskId}
    (wellFormed : v.engine.store.committed.WellFormed) (settles : call.Settles own)
    (went : call.step now v.engine = some (engine, call'))
    (running : v.engine.store.committed.Runs id) (stopped : ¬ engine.store.committed.Runs id) :
    id = own := by
  by_contra differs
  obtain ⟨task, stored, runs⟩ := running
  exact stopped ⟨task, (settles.leaves wellFormed went differs).trans stored, runs⟩

/-- A step of a call that settles a task. If it stops the task, nobody holds it, or the holder is
disowned, or was before. -/
theorem grounds_call {engine : Engine} {call call' : Call Bool} {d' : Duty} {own : TaskId}
    (wellFormed : v.engine.store.committed.WellFormed) (grounds : Grounds h v [d])
    (settles : call.Settles own) (went : call.step now v.engine = some (engine, call'))
    (kept : ∀ id t, ¬ HandedTo ⟨some d, v, { v with engine }⟩ t id)
    (grounded : d'.Grounded (h ++ [⟨some d, v, { v with engine }⟩]) { v with engine })
    (stops : ∀ t, v.producer.holder own = some t → ¬ Stale h t own →
      v.engine.store.committed.Runs own → ¬ engine.store.committed.Runs own →
        Disowned ⟨some d, v, { v with engine }⟩ t own)
    (hands : ∀ id, d.Hands id → engine.store.committed.Runs id → d'.Hands id) :
    Grounds (h ++ [⟨some d, v, { v with engine }⟩]) { v with engine } [d'] := by
  refine grounds_engine (x := ⟨some d, v, { v with engine }⟩) grounds (fun _ => rfl) kept
    (List.forall_mem_singleton.mpr grounded) (fun id t holds fresh running stopped => ?_)
    fun id t holds stale running => ?_
  · obtain rfl := stops_own wellFormed settles went running stopped
    exact stops t holds fresh running stopped
  · have before := ((settles.step wellFormed went).2 id running).1
    obtain ⟨_, member, inHand⟩ := grounds.stale id t holds stale before
    obtain rfl := List.mem_singleton.mp member
    exact ⟨d', List.mem_singleton_self d', hands id inHand running⟩

theorem grounds_settle {engine : Engine} {call call' : Call Bool}
    (wellFormed : v.engine.store.committed.WellFormed) (grounds : Grounds h v [.settling s call])
    (went : call.step now v.engine = some (engine, call')) :
    Grounds (h ++ [⟨some (.settling s call), v, { v with engine }⟩]) { v with engine }
      [.settling s call'] := by
  obtain ⟨own, settles, owner⟩ := List.forall_mem_singleton.mp grounds.grounded
  refine grounds_call wellFormed grounds settles went (by rintro _ _ ⟨_, ⟨⟩, -⟩) ?_
    (fun t holds _ running stopped => ?_) fun _ => False.elim
  · exact ⟨own, (settles.step wellFormed went).1,
      owner.imp_right fun ⟨other, done⟩ => ⟨other, done.step went⟩⟩
  · rcases owner with free | ⟨other, done⟩
    · rw [free] at holds
      cases holds
    · refine ⟨⟨s, call, ?_, rfl, done⟩, Service.isRunning_iff.mpr running,
        Service.isRunning_false_iff.mpr stopped, holds⟩
      rintro rfl
      exact other holds

theorem grounds_giveBack {engine : Engine} {call call' : Call Bool} {left : List TaskId}
    (wellFormed : v.engine.store.committed.WellFormed)
    (grounds : Grounds h v [.returning s call left])
    (went : call.step now v.engine = some (engine, call')) :
    Grounds (h ++ [⟨some (.returning s call left), v, { v with engine }⟩]) { v with engine }
      [.returning s call' left] := by
  obtain ⟨⟨own, settles, free⟩, others⟩ := List.forall_mem_singleton.mp grounds.grounded
  refine grounds_call wellFormed grounds settles went (by rintro _ _ ⟨_, ⟨⟩, -⟩)
    ⟨⟨own, (settles.step wellFormed went).1, free⟩, others⟩ (fun t holds => ?_) fun _ => False.elim
  rw [free] at holds
  cases holds

theorem grounds_handBack {engine : Engine} {call call' : Call Bool}
    (wellFormed : v.engine.store.committed.WellFormed) (grounds : Grounds h v [.handingBack call])
    (went : call.step now v.engine = some (engine, call')) :
    Grounds (h ++ [⟨some (.handingBack call), v, { v with engine }⟩]) { v with engine }
      [.handingBack call'] := by
  obtain ⟨own, settles, loose⟩ := List.forall_mem_singleton.mp grounds.grounded
  have kept : ∀ id t, ¬ HandedTo ⟨some (.handingBack call), v, { v with engine }⟩ t id := by
    rintro _ _ ⟨_, ⟨⟩, -⟩
  refine grounds_call wellFormed grounds settles went kept
    ⟨own, (settles.step wellFormed went).1, loose_after rfl (kept own) loose⟩
    (fun t holds fresh => absurd (loose t holds) fresh) fun id inHand running => ?_
  -- While the task runs, the call goes on or has failed.
  have stepped := inHand.1.step wellFormed went
  exact ⟨stepped.1, (stepped.2 id running).2 rfl⟩

theorem grounds_select {engine : Engine} {acquirer acquirer' : Acquirer} {ending : Bool}
    (wellFormed : v.engine.store.committed.WellFormed)
    (grounds : Grounds h v [.selecting s acquirer])
    (went : (if ending then acquirer.cancel else acquirer).step now wall v.engine =
      some (engine, acquirer')) :
    Grounds (h ++ [⟨some (.selecting s acquirer), v, { v with engine }⟩]) { v with engine }
      [.selecting s acquirer'] := by
  obtain ⟨goesOn, chooses⟩ := Acquirer.step_keeps wellFormed went
  have kept : ∀ id s', ¬ HandedTo ⟨some (.selecting s acquirer), v, { v with engine }⟩ s' id := by
    rintro _ _ ⟨_, ⟨⟩, -⟩
  refine grounds_engine (x := ⟨some (.selecting s acquirer), v, { v with engine }⟩) grounds
    (fun _ => rfl) kept ?_ (fun id t _ _ running stopped => absurd (goesOn id running) stopped)
    fun id t holds stale running => ?_
  · refine List.forall_mem_singleton.mpr fun task chosen => ?_
    obtain ⟨runs, idle⟩ := chooses task chosen
    refine ⟨runs, loose_after rfl (kept task.id) fun t holds => ?_⟩
    -- Who holds a task that does not run holds a stale one.
    by_contra fresh
    exact idle (grounds.held task.id t holds fresh)
  · rcases Acquirer.step_starts wellFormed went running with before | chosen
    · obtain ⟨d', member, inHand⟩ := grounds.stale id t holds stale before
      obtain rfl := List.mem_singleton.mp member
      obtain ⟨task, chosen, -⟩ := inHand
      rw [Acquirer.step_over] at went
      · cases went
      · split <;> exact Option.isSome_of_eq_some chosen
    · exact ⟨_, List.mem_singleton_self _, chosen⟩

/-- A session that takes tasks that run, and that nobody held. -/
theorem grounds_claim {found : List TaskId} (grounds : Grounds h v [.looking s [] found]) :
    Grounds (h ++ [⟨some (.looking s [] found), v,
        { v with producer := v.producer.claim s found }⟩])
      { v with producer := v.producer.claim s found } [.reading s] := by
  have runs := List.forall_mem_singleton.mp grounds.grounded
  refine grounds_moved (x := ⟨some (.looking s [] found), v,
    { v with producer := v.producer.claim s found }⟩) grounds (fun _ => Iff.rfl)
    (List.forall_mem_singleton.mpr trivial) fun id t holds => ?_
  cases closed : v.producer.isClosed s with
  | true =>
    simp only [Producer.claim, closed, if_true] at holds
    exact .inl ⟨holds, by rintro ⟨_, ⟨⟩, -⟩, False.elim⟩
  | false =>
    simp only [Producer.holder_claim closed] at holds
    split at holds
    · next free =>
      cases holds
      refine .inr ⟨runs id free.1, fun stale => ?_⟩
      rcases stale_snoc.mp stale with ⟨⟨_, _, -, ⟨⟩, -⟩, -⟩ | ⟨before, -⟩
      rw [grounds.holds id s before] at free
      cases free.2
    · exact .inl ⟨holds, by rintro ⟨_, ⟨⟩, -⟩, False.elim⟩

/-- A session that leaves gives up what it held. -/
theorem grounds_leave (grounds : Grounds h v [.leaving s]) :
    Grounds (h ++ [⟨some (.leaving s), v, { v with producer := (v.producer.close s).2 }⟩])
      { v with producer := (v.producer.close s).2 } [giveBack s (v.producer.heldBy s)] := by
  refine grounds_moved (x := ⟨some (.leaving s), v,
    { v with producer := (v.producer.close s).2 }⟩) grounds (fun _ => Iff.rfl)
    (List.forall_mem_singleton.mpr (giveBack_grounded fun id member => ?_)) fun id t holds => ?_
  · exact (Producer.holder_close _ s id).trans (if_pos (Producer.mem_heldBy.mp member))
  · rw [Producer.holder_close] at holds
    split at holds
    · cases holds
    · exact .inl ⟨holds, by rintro ⟨_, ⟨⟩, -⟩, False.elim⟩

/-- A task that runs is handed to a session. Whoever held it does not hold it any more. -/
theorem grounds_deliver {task : Task} {producer : Producer}
    (grounds : Grounds h v [.delivering s task])
    (sent : v.producer.deliver s task = (.sent, producer)) :
    Grounds (h ++ [⟨some (.delivering s task), v, { v with producer }⟩]) { v with producer } [] := by
  have runs := (List.forall_mem_singleton.mp grounds.grounded).1
  refine grounds_moved (x := ⟨some (.delivering s task), v, { v with producer }⟩) grounds
    (fun _ => Iff.rfl) (List.forall_mem_nil _) fun id t holds => ?_
  simp only [Producer.holder, deliver_sent sent, Table.get?_insert] at holds
  split at holds
  · next own =>
    obtain rfl := own
    cases holds
    refine .inr ⟨runs, fun stale => ?_⟩
    rcases stale_snoc.mp stale with ⟨⟨_, _, -, ⟨⟩, -⟩, -⟩ | ⟨-, -, kept⟩
    exact kept ⟨task, rfl, rfl, congrArg Prod.fst sent⟩
  · next other =>
    refine .inl ⟨holds, ?_, fun own => absurd own.symm other⟩
    rintro ⟨_, ⟨⟩, own, -⟩
    exact other own.symm

/-- A session that gives a task up, if it holds it. -/
theorem grounds_release {network : Network} {duty : Duty} {own : TaskId}
    (grounds : Grounds h v [.reading s])
    (grounded : duty.Grounded
      (h ++ [⟨some (.reading s), v, ⟨v.engine, network, (v.producer.release s own).2⟩⟩])
      ⟨v.engine, network, (v.producer.release s own).2⟩) :
    Grounds (h ++ [⟨some (.reading s), v, ⟨v.engine, network, (v.producer.release s own).2⟩⟩])
      ⟨v.engine, network, (v.producer.release s own).2⟩ [duty] := by
  refine grounds_moved
    (x := ⟨some (.reading s), v, ⟨v.engine, network, (v.producer.release s own).2⟩⟩) grounds
    (fun _ => Iff.rfl) (List.forall_mem_singleton.mpr grounded) fun id t holds => ?_
  refine .inl ⟨?_, by rintro ⟨_, ⟨⟩, -⟩, False.elim⟩
  rcases v.producer.release_cases s own with same | ⟨-, erased⟩
  · rwa [same] at holds
  · simp only [erased, Producer.holder, Table.get?_erase] at holds
    split at holds
    · cases holds
    · exact holds

/-- Whoever gives a task up does not hold it any more. -/
theorem holder_release_ne (p : Producer) (s : SessionId) (id : TaskId) :
    (p.release s id).2.holder id ≠ some s := by
  unfold Producer.release
  cases known : p.owners.get? id with
  | none => simp [Producer.holder, known]
  | some owner =>
    by_cases own : owner = s
    · simp [own, Producer.holder]
    · simp [own, Producer.holder, known]

theorem holder_release (p : Producer) (s : SessionId) (id : TaskId)
    (released : (p.release s id).1 = true) : (p.release s id).2.holder id = none := by
  unfold Producer.release at released ⊢
  cases known : p.owners.get? id with
  | none => exact known
  | some owner =>
    rw [known] at released
    by_cases own : owner = s
    · simp [own, Producer.holder]
    · simp [own] at released

theorem settle_grounds {network : Network} {own : TaskId} (requeue : Bool)
    (grounds : Grounds h v [.reading s]) :
    Grounds (h ++ [⟨some (.reading s), v,
        ⟨v.engine, network, (settle v.producer s own requeue).1⟩⟩])
      ⟨v.engine, network, (settle v.producer s own requeue).1⟩
      [(settle v.producer s own requeue).2] := by
  have answer : settle v.producer s own requeue = ((v.producer.release s own).2,
      if (v.producer.release s own).1 then .settling s (.starting (.cancel own requeue))
      else .reading s) := rfl
  rw [answer]
  refine grounds_release grounds ?_
  split
  · next released => exact ⟨own, .inr ⟨requeue, rfl⟩, .inl (holder_release _ s own released)⟩
  · trivial

theorem obey_grounds {network : Network} {command : Command} (grounds : Grounds h v [.reading s])
    (obeyed : obey wall { v with network } s command = turn) :
    Grounds (h ++ [⟨some (.reading s), v, turn.state⟩]) turn.state
      (turn.self.toList ++ turn.started) := by
  subst obeyed
  cases command with
  | ready =>
    refine grounds_idle grounds (fun _ => False.elim) rfl rfl fun d member => grounded_of_rests ?_
    rcases List.mem_pair.mp member with rfl | rfl <;> rfl
  | ack id =>
    have given := holder_release_ne v.producer s id
    exact grounds_release grounds ⟨id, .inl ⟨wall, rfl⟩, .inr ⟨given, wall, rfl⟩⟩
  | nack id requeue => exact settle_grounds requeue grounds
  | error id => exact settle_grounds false grounds
  | recover ids =>
    exact grounds_idle grounds (fun _ => False.elim) rfl rfl (List.forall_mem_singleton.mpr nofun)

/-- What a step of a duty preserves, if the other duties rest. -/
theorem step_grounds (wellFormed : v.engine.store.committed.WellFormed)
    (unfailed : d.hasFailed = false) (grounds : Grounds h v [d])
    (step : d.step wall now v = some turn) :
    Grounds (h ++ [⟨some d, v, turn.state⟩]) turn.state (turn.self.toList ++ turn.started) := by
  have move := step_move step
  cases step_does step with
  | unlisten | part => exact grounds_idle grounds (fun _ => False.elim) rfl rfl (List.forall_mem_nil _)
  | accept welcomed =>
    cases welcomed
    refine grounds_idle grounds (fun _ => False.elim) rfl rfl fun d member => grounded_of_rests ?_
    revert d
    simp [Duty.rests]
  | hangUp | settled _ =>
    exact grounds_idle grounds (fun _ => False.elim) rfl rfl (List.forall_mem_singleton.mpr trivial)
  | malformed _ =>
    refine grounds_idle grounds (fun _ => False.elim) rfl ?_ (List.forall_mem_singleton.mpr trivial)
    simp only [Turn.next, Producer.post]
    split <;> rfl
  | obey _ => exact obey_grounds grounds rfl
  | settle went => exact grounds_settle wellFormed grounds went
  | @look s id left found running looked =>
    have runs : ∀ id ∈ found, v.engine.store.committed.Runs id :=
      List.forall_mem_singleton.mp grounds.grounded
    refine grounds_idle grounds (fun _ => False.elim) rfl rfl (List.forall_mem_singleton.mpr ?_)
    intro other member
    split at member
    · next running =>
      rcases List.mem_append.mp member with before | new
      · exact runs other before
      · obtain rfl := List.mem_singleton.mp new
        rw [running] at looked
        exact Service.isRunning_iff.mp looked
    · exact runs other member
  | claim => exact grounds_claim grounds
  | leave => exact grounds_leave grounds
  | giveBack went => exact grounds_giveBack wellFormed grounds went
  | givenBack ended =>
    have free := (List.forall_mem_singleton.mp grounds.grounded).2
    exact grounds_idle grounds (fun _ => False.elim) rfl rfl
      (List.forall_mem_singleton.mpr (giveBack_grounded free))
  | select went => exact grounds_select wellFormed grounds went
  | @selected s acquirer task chosen =>
    have after := grounds.quiet (x := ⟨some (.selecting s acquirer), v, v⟩)
      (quiet_of_idle (by rintro _ _ ⟨⟩) rfl rfl)
    have ready := List.forall_mem_singleton.mp after.grounded task chosen
    refine after.replace (List.forall_mem_singleton.mpr ready) fun id d member hands => ?_
    obtain rfl := List.mem_singleton.mp member
    obtain ⟨other, found, own⟩ := hands
    rw [chosen] at found
    cases found
    exact ⟨_, List.mem_singleton_self _, own⟩
  | unselected ended nothing =>
    refine grounds_idle grounds ?_ rfl rfl (List.forall_mem_nil _)
    rintro id ⟨task, chosen, -⟩
    rw [ended] at chosen
    exact absurd (Option.some.inj chosen) (nothing task)
  | deliver sent => exact grounds_deliver grounds sent
  | @refuse s task refused =>
    have quiet : (⟨some (.delivering s task), v, v⟩ : Moment).Quiet := by
      refine ⟨fun _ => rfl, fun _ => Iff.rfl, ?_⟩
      rintro _ _ ⟨_, ⟨⟩, -, sent⟩
      rw [refused] at sent
      cases sent
    have after := grounds.quiet quiet
    have loose := (List.forall_mem_singleton.mp after.grounded).2
    refine after.replace (List.forall_mem_singleton.mpr ⟨task.id, .inr ⟨true, rfl⟩, loose⟩)
      fun id d member hands => ⟨_, List.mem_singleton_self _, ?_⟩
    obtain rfl := List.mem_singleton.mp member
    obtain rfl := hands
    exact ⟨.inr ⟨true, rfl⟩, .inl rfl⟩
  | handBack went => exact grounds_handBack wellFormed grounds went
  | handedBack ended =>
    refine grounds_idle grounds ?_ rfl rfl (List.forall_mem_nil _)
    rintro id ⟨-, goesOn | failed⟩
    · rw [goesOn] at ended
      cases ended
    · exact absurd failed (by simpa [hasFailed, call?] using unfailed)
  | write taken =>
    cases move with
    | still owners _ =>
      exact grounds_idle grounds (fun _ => False.elim) rfl owners (List.forall_mem_singleton.mpr trivial)
  | mute _ =>
    cases move with
    | still owners _ =>
      exact grounds_idle grounds (fun _ => False.elim) rfl owners (List.forall_mem_nil _)

theorem settle_rests {p : Producer} {own : TaskId} {requeue : Bool}
    (rests : (settle p s own requeue).2.rests = true) : (settle p s own requeue).1 = p := by
  rcases settle_cases p s own requeue with gives | ignores
  · rw [gives] at rests
    cases rests
  · rw [ignores]

/-- A duty that rests before and after a step has done nothing to the tasks. -/
theorem step_rests (wellFormed : v.engine.store.committed.WellFormed) (rests : d.rests = true)
    (step : d.step wall now v = some turn)
    (after : ∀ d' ∈ turn.self.toList ++ turn.started, d'.rests = true) :
    (⟨some d, v, turn.state⟩ : Moment).Quiet := by
  have idle : ∀ s task, d ≠ .delivering s task := by
    rintro s task rfl
    cases rests
  have move := step_move step
  cases step_does step with
  | unlisten => exact quiet_of_idle idle rfl rfl
  | accept welcomed =>
    cases welcomed
    exact quiet_of_idle idle rfl rfl
  | hangUp | malformed _ => cases List.forall_mem_singleton.mp after
  | @obey s network command _ =>
    cases command with
    | ready => exact quiet_of_idle idle rfl rfl
    | ack id | recover ids => cases List.forall_mem_singleton.mp after
    | nack id requeue =>
      have same := settle_rests (after _ (List.mem_singleton_self _))
      exact quiet_of_idle idle rfl (congrArg Producer.owners same)
    | error id =>
      have same := settle_rests (after _ (List.mem_singleton_self _))
      exact quiet_of_idle idle rfl (congrArg Producer.owners same)
  | @select s acquirer acquirer' engine went =>
    -- A task would start only by being chosen.
    refine ⟨fun _ => rfl, fun id => ⟨fun running => ?_, (Acquirer.step_keeps wellFormed went).1 id⟩,
      by rintro _ _ ⟨_, ⟨⟩, -⟩⟩
    refine (Acquirer.step_starts wellFormed went running).resolve_right ?_
    rintro ⟨task, chosen, -⟩
    have waits := List.forall_mem_singleton.mp after
    rw [Duty.rests, Acquirer.hasChosen_of chosen] at waits
    cases waits
  | selected chosen =>
    rw [Duty.rests, Acquirer.hasChosen_of chosen] at rests
    cases rests
  | unselected _ _ => exact quiet_of_idle idle rfl rfl
  | write _ | mute _ =>
    cases move with
    | still owners _ => exact quiet_of_idle idle rfl owners
  | settle _ | settled _ | look _ | claim | leave | giveBack _ | givenBack _ | part | deliver _
  | refuse _ | handBack _ | handedBack _ => cases rests

end Duty

end TaskQueue
