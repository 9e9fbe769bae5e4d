import TaskQueue.Producer.Duty

/-!
# What a duty does in one step

Each step of a duty is one of a few things: a connection is accepted, a frame is read, a call goes
on or is over, a task is looked up, taken, delivered or refused, a session leaves, a message is
written.

Results:
1. `read_eq`, `write_eq`: reading and writing only change the network.
2. `step_does`: nothing else can happen in one step.
-/

namespace TaskQueue

/-! ## 1. Reading and writing -/

namespace Service

variable {v w : Service} {s : SessionId} {body : List UInt8}

theorem read_eq (v : Service) (s : SessionId) :
    ∃ network, (v.read s).2 = { v with network } := by
  unfold read
  split
  · exact ⟨_, rfl⟩
  · exact ⟨v.network, rfl⟩

theorem write_eq (written : v.write s body = some w) : ∃ network, w = { v with network } := by
  simp only [write, Option.bind_eq_bind, Option.bind_eq_some_iff, Option.pure_def,
    Option.some.injEq] at written
  obtain ⟨connection, -, bytes, -, network, -, rfl⟩ := written
  exact ⟨network, rfl⟩

/-- Looking a task up always succeeds. -/
theorem isRunning_eq (v : Service) (id : TaskId) : v.isRunning id =
    .ok ((v.engine.store.committed.tasks.get? id).any fun task => task.state = .running) :=
  rfl

end Service

/-! ## 2. Steps -/

namespace Duty

/-- Everything that a duty can do in one step. -/
inductive Does (wall : UInt64) (now : Nat) (v : Service) : Duty → Turn Service Duty → Prop
  | unlisten {network : Network} : Does wall now v .accepting (.last { v with network })
  | accept {connection : ConnectionId} {network : Network} {s : SessionId} {producer : Producer} :
      v.producer.welcome connection = (s, producer) →
      Does wall now v .accepting
        ⟨{ v with network, producer }, some .accepting, [.reading s, .writing s]⟩
  /-- There is nothing more to read from a session, or it has to end. -/
  | hangUp {s : SessionId} {network : Network} :
      Does wall now v (.reading s) (.next { v with network } (.leaving s))
  | malformed {s : SessionId} {network : Network} {failure : Failure} :
      v.producer.isEnding s = false →
      Does wall now v (.reading s) (.next { v with
        network, producer := (v.producer.post s (.error failure.message)).getD v.producer }
        (.leaving s))
  | obey {s : SessionId} {network : Network} {command : Command} :
      v.producer.isEnding s = false →
      Does wall now v (.reading s) (Duty.obey wall { v with network } s command)
  | settle {s : SessionId} {call call' : Call Bool} {engine : Engine} :
      call.step now v.engine = some (engine, call') →
      Does wall now v (.settling s call) (.next { v with engine } (.settling s call'))
  | settled {s : SessionId} {call : Call Bool} : call.result?.isSome = true →
      Does wall now v (.settling s call) (.next v (.reading s))
  | look {s : SessionId} {id : TaskId} {left found : List TaskId} {running : Bool} :
      v.isRunning id = .ok running →
      Does wall now v (.looking s (id :: left) found)
        (.next v (.looking s left (if running then found ++ [id] else found)))
  | claim {s : SessionId} {found : List TaskId} :
      Does wall now v (.looking s [] found)
        (.next { v with producer := v.producer.claim s found } (.reading s))
  | leave {s : SessionId} :
      Does wall now v (.leaving s) (.next { v with producer := (v.producer.close s).2 }
        (giveBack s (v.producer.heldBy s)))
  | giveBack {s : SessionId} {call call' : Call Bool} {left : List TaskId} {engine : Engine} :
      call.step now v.engine = some (engine, call') →
      Does wall now v (.returning s call left) (.next { v with engine } (.returning s call' left))
  | givenBack {s : SessionId} {call : Call Bool} {left : List TaskId} :
      call.result?.isSome = true →
      Does wall now v (.returning s call left) (.next v (Duty.giveBack s left))
  | part {s : SessionId} :
      Does wall now v (.parting s) (.last { v.ignore s with producer := v.producer.forget })
  /-- A step of someone who acquires, who is told to give up when the session has to end. -/
  | select {s : SessionId} {acquirer acquirer' : Acquirer} {engine : Engine} :
      (if v.producer.isEnding s then acquirer.cancel else acquirer).step now wall v.engine =
        some (engine, acquirer') →
      Does wall now v (.selecting s acquirer) (.next { v with engine } (.selecting s acquirer'))
  | selected {s : SessionId} {acquirer : Acquirer} {task : Task} :
      acquirer.result? = some (.ok (some task)) →
      Does wall now v (.selecting s acquirer) (.next v (.delivering s task))
  | unselected {s : SessionId} {acquirer : Acquirer} {result : Except Failure (Option Task)} :
      acquirer.result? = some result → (∀ task, result ≠ .ok (some task)) →
      Does wall now v (.selecting s acquirer) (.last v)
  | deliver {s : SessionId} {task : Task} {producer : Producer} :
      v.producer.deliver s task = (.sent, producer) →
      Does wall now v (.delivering s task) (.last { v with producer })
  | refuse {s : SessionId} {task : Task} :
      v.producer.deliver s task = (.refused, v.producer) →
      Does wall now v (.delivering s task)
        (.next v (.handingBack (.starting (.cancel task.id true))))
  | handBack {call call' : Call Bool} {engine : Engine} :
      call.step now v.engine = some (engine, call') →
      Does wall now v (.handingBack call) (.next { v with engine } (.handingBack call'))
  | handedBack {call : Call Bool} : call.result?.isSome = true →
      Does wall now v (.handingBack call) (.last v)
  | write {s : SessionId} {body : List UInt8} {network : Network} {producer : Producer} :
      v.producer.nextMessage s = some (body, producer) →
      Does wall now v (.writing s) (.next { v with network, producer } (.writing s))
  /-- A write fails, or the session has to end and all its messages are written. -/
  | mute {s : SessionId} {network : Network} {producer : Producer} :
      producer = v.producer ∨ (∃ body, v.producer.nextMessage s = some (body, producer)) →
      Does wall now v (.writing s) (.last { v with network, producer := producer.mute s })

variable {wall : UInt64} {now : Nat} {v : Service} {d : Duty} {turn : Turn Service Duty}
  {s : SessionId}

theorem take_does (body : List UInt8) {network : Network} (goesOn : v.producer.isEnding s = false) :
    Does wall now v (.reading s) (take wall { v with network } s body) := by
  unfold take
  split
  · exact .obey goesOn
  · exact .malformed goesOn

/-- A call goes on, or is over. -/
theorem proceed_cases {call : Call Bool} {wait : Call Bool → Duty} {done : Turn Service Duty}
    (step : proceed now v call wait done = some turn) :
    call.result?.isSome = true ∧ turn = done ∨
      ∃ engine call', call.step now v.engine = some (engine, call') ∧
        turn = .next { v with engine } (wait call') := by
  unfold proceed at step
  split at step
  · next ended =>
    cases step
    exact .inl ⟨ended, rfl⟩
  · obtain ⟨⟨engine, call'⟩, went, rfl⟩ := Option.map_eq_some_iff.mp step
    exact .inr ⟨engine, call', went, rfl⟩

theorem deliver_refused {p q : Producer} {task : Task}
    (refused : p.deliver s task = (.refused, q)) : q = p := by
  unfold Producer.deliver at refused
  split at refused
  · cases refused
    rfl
  · split at refused <;> cases refused
    rfl

theorem step_does (step : d.step wall now v = some turn) : Does wall now v d turn := by
  cases d with
  | accepting =>
    rw [Duty.step] at step
    split at step
    · cases step
      exact .unlisten
    · obtain ⟨⟨connection, network⟩, -, rfl⟩ := Option.map_eq_some_iff.mp step
      exact .accept rfl
  | reading s =>
    obtain ⟨network, same⟩ := v.read_eq s
    rw [Duty.step] at step
    split at step
    · cases step
      exact .hangUp
    next goesOn =>
    split at step
    · next body w read =>
      cases step
      rw [read] at same
      cases same
      exact take_does body (by simpa using goesOn)
    · next w read =>
      cases step
      rw [read] at same
      cases same
      exact .hangUp
    · cases step
  | settling s call =>
    rw [Duty.step] at step
    rcases proceed_cases step with ⟨ended, rfl⟩ | ⟨engine, call', went, rfl⟩
    · exact .settled ended
    · exact .settle went
  | looking s ids found =>
    cases ids with
    | nil =>
      cases step
      exact .claim
    | cons id left =>
      have look := v.isRunning_eq id
      rw [Duty.step, look] at step
      generalize (v.engine.store.committed.tasks.get? id).any _ = running at look step
      have does : Does wall now v (.looking s (id :: left) found) _ := .look look
      cases running <;> cases step <;> exact does
  | leaving s =>
    cases step
    exact .leave
  | returning s call left =>
    rw [Duty.step] at step
    rcases proceed_cases step with ⟨ended, rfl⟩ | ⟨engine, call', went, rfl⟩
    · exact .givenBack ended
    · exact .giveBack went
  | parting s =>
    cases step
    exact .part
  | selecting s acquirer =>
    have same : (if v.producer.isEnding s then acquirer.cancel else acquirer).result? =
        acquirer.result? := by
      split <;> rfl
    simp only [Duty.step] at step
    split at step
    · next task result =>
      cases step
      exact .selected (same ▸ result)
    · next result nothing ended =>
      cases step
      exact .unselected (same ▸ ended) fun task found => nothing task found
    · obtain ⟨⟨engine, acquirer'⟩, went, rfl⟩ := Option.map_eq_some_iff.mp step
      exact .select went
  | delivering s task =>
    rw [Duty.step] at step
    split at step
    · next producer sent =>
      cases step
      exact .deliver sent
    · next producer refused =>
      cases step
      obtain rfl := deliver_refused refused
      exact .refuse refused
  | handingBack call =>
    rw [Duty.step] at step
    rcases proceed_cases step with ⟨ended, rfl⟩ | ⟨engine, call', went, rfl⟩
    · exact .handedBack ended
    · exact .handBack went
  | writing s =>
    rw [Duty.step] at step
    split at step
    · next body producer taken =>
      simp only at step
      split at step
      · next w written =>
        cases step
        obtain ⟨network, rfl⟩ := Service.write_eq written
        exact .write taken
      · cases step
        exact .mute (.inr ⟨body, taken⟩)
    · split at step
      · cases step
        exact .mute (.inl rfl)
      · cases step

end Duty

end TaskQueue
