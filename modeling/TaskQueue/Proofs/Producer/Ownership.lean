import TaskQueue.Proofs.Producer.Steps
import TaskQueue.Proofs.Table

/-!
# Who holds which task

Results:
1. `release_cases`, `holder_claim`, `holder_close`: what a producer's steps do to the holder of each
   task.
2. `step_move`: everything that a duty can do to the holders and to the closed sessions.
3. `Move.takes`: a session comes to hold a task in two ways only. It recovers one that nobody holds,
   or one is delivered to it.
4. `Move.keeps_open`: only sessions that are open hold tasks.
-/

namespace TaskQueue

namespace Producer

variable {p q : Producer} {s t : SessionId} {id : TaskId}

/-! ## 1. Holders -/

/-- The session that holds a task. -/
def holder (p : Producer) (id : TaskId) : Option SessionId :=
  p.owners.get? id

theorem holder_eq (same : q.owners = p.owners) (id : TaskId) : q.holder id = p.holder id := by
  rw [holder, same, holder]

theorem get?_foldl_erase (owners : Table TaskId SessionId) (ids : List TaskId) (id : TaskId) :
    (ids.foldl Table.erase owners).get? id = if id ∈ ids then none else owners.get? id := by
  induction ids generalizing owners with
  | nil => simp
  | cons first rest ih =>
    rw [List.foldl_cons, ih, Table.get?_erase]
    by_cases own : id = first
    · simp [own]
    · simp [own]

theorem mem_heldBy : id ∈ p.heldBy s ↔ p.holder id = some s := by
  rw [holder, Table.get?_eq_some_iff]
  simp [heldBy]

/-- A session that is closed gives up all that it held, and nothing else changes hands. -/
theorem holder_close (p : Producer) (s : SessionId) (id : TaskId) :
    (p.close s).2.holder id = if p.holder id = some s then none else p.holder id := by
  have erased : (p.close s).2.holder id =
      if id ∈ p.heldBy s then none else p.owners.get? id := get?_foldl_erase _ _ _
  rw [erased]
  simp only [mem_heldBy]
  rfl

/-- A session that is open takes what nobody holds. -/
theorem holder_claim (opened : p.isClosed s = false) (ids : List TaskId) (id : TaskId) :
    (p.claim s ids).holder id =
      if id ∈ ids ∧ p.holder id = none then some s else p.holder id := by
  have fold : ∀ owners : Table TaskId SessionId,
      (ids.foldl (fun owners id => if owners.contains id then owners else owners.insert id s)
        owners).get? id = if id ∈ ids ∧ owners.get? id = none then some s else owners.get? id := by
    induction ids with
    | nil => simp
    | cons first rest ih =>
      intro owners
      rw [List.foldl_cons, ih]
      -- The first task is free or not before the others are looked at, which may repeat it.
      cases held : owners.contains first with
      | true =>
        obtain ⟨owner, known⟩ := Table.contains_eq_true_iff.mp held
        by_cases own : id = first
        · simp [own, known]
        · simp [own]
      | false =>
        have free : owners.get? first = none := by simpa [Table.contains] using held
        by_cases own : id = first
        · simp [own, free]
        · simp [own]
  simp only [claim, opened, Bool.false_eq_true, if_false, holder]
  exact fold p.owners

/-- A session only gives up what it holds. -/
theorem release_cases (p : Producer) (s : SessionId) (id : TaskId) :
    (p.release s id).2 = p ∨
      p.holder id = some s ∧ (p.release s id).2 = { p with owners := p.owners.erase id } := by
  unfold release holder
  cases held : p.owners.get? id with
  | none => exact .inl rfl
  | some owner =>
    by_cases own : owner = s
    · exact .inr ⟨congrArg some own, by simp [own]⟩
    · exact .inl (by simp [own])

/-! ## Closed sessions -/

/-- Which of the sessions that began are closed. -/
def flags (p : Producer) : List Bool :=
  p.sessions.map Session.closed

theorem isClosed_eq_flags (p : Producer) (t : SessionId) :
    p.isClosed t = (p.flags[t]?).all fun closed => closed := by
  rw [isClosed, flags, List.getElem?_map]
  cases p.sessions[t]? <;> rfl

theorem isClosed_congr (same : q.flags = p.flags) (t : SessionId) :
    q.isClosed t = p.isClosed t := by
  rw [isClosed_eq_flags, isClosed_eq_flags, same]

/-- A change to a session that does not close it leaves the same sessions open. -/
theorem flags_modify {f : Session → Session}
    (same : ∀ session, (f session).closed = session.closed) (p : Producer) (s : SessionId) :
    (p.modify s f).flags = p.flags := by
  refine List.ext_getElem? fun t => ?_
  simp only [flags, modify, List.getElem?_map, List.getElem?_modify]
  split
  · cases p.sessions[t]? <;> simp [same]
  · cases p.sessions[t]? <;> simp

theorem isClosed_modify {f : Session → Session}
    (same : ∀ session, (f session).closed = session.closed) (p : Producer) (s t : SessionId) :
    (p.modify s f).isClosed t = p.isClosed t :=
  isClosed_congr (flags_modify same p s) t

theorem isClosed_welcome (p : Producer) (connection : ConnectionId)
    (opened : p.isClosed t = false) : (p.welcome connection).2.isClosed t = false := by
  have known : t < p.sessions.length := by
    rw [← Nat.not_le]
    intro none
    simp [isClosed, List.getElem?_eq_none none] at opened
  simpa only [isClosed, welcome, List.getElem?_append_left known] using opened

theorem isClosed_close (p : Producer) (differs : t ≠ s) :
    (p.close s).2.isClosed t = p.isClosed t := by
  simp only [isClosed, close, modify, List.getElem?_modify, Ne.symm differs, if_false]
  cases p.sessions[t]? <;> rfl

end Producer

/-! ## 2. What a duty can do -/

namespace Duty

variable {p q : Producer} {d : Duty} {s t : SessionId} {id : TaskId}

/-- Everything that a step of a duty can do to the holders and to the closed sessions. -/
inductive Move (p : Producer) : Duty → Producer → Prop
  | still {d : Duty} {q : Producer} : q.owners = p.owners →
      (∀ t, p.isClosed t = false → q.isClosed t = false) → Move p d q
  /-- A session reports that it is done with a task that it holds. -/
  | gaveUp {s : SessionId} {id : TaskId} : p.holder id = some s →
      Move p (.reading s) { p with owners := p.owners.erase id }
  | claimed {s : SessionId} {found : List TaskId} : p.isClosed s = false →
      Move p (.looking s [] found) (p.claim s found)
  | left {s : SessionId} : Move p (.leaving s) (p.close s).2
  | handed {s : SessionId} {task : Task} {q : Producer} : p.isClosed s = false →
      q.owners = p.owners.insert task.id s → (∀ t, q.isClosed t = p.isClosed t) →
      Move p (.delivering s task) q

theorem move_refl (p : Producer) (d : Duty) : Move p d p :=
  .still rfl fun _ opened => opened

/-- Nobody is closed and nothing changes hands by a change to what is written. -/
theorem move_modify {f : Session → Session} (same : ∀ session, (f session).closed = session.closed)
    (p : Producer) (s : SessionId) (d : Duty) : Move p d (p.modify s f) :=
  .still rfl fun t opened => (Producer.isClosed_modify same p s t).trans opened

theorem move_release (p : Producer) (s : SessionId) (id : TaskId) :
    Move p (.reading s) (p.release s id).2 := by
  rcases p.release_cases s id with same | ⟨held, erased⟩
  · rw [same]
    exact move_refl p _
  · rw [erased]
    exact .gaveUp held

theorem obey_move (wall : UInt64) (v : Service) (s : SessionId) (command : Command) :
    Move v.producer (.reading s) (obey wall v s command).state.producer := by
  cases command with
  | ready => exact move_refl _ _
  | ack id => exact move_release v.producer s id
  | nack id requeue => exact move_release v.producer s id
  | error id => exact move_release v.producer s id
  | recover ids => exact move_refl _ _

theorem move_post (p : Producer) (s : SessionId) (message : Message) (d : Duty) :
    Move p d ((p.post s message).getD p) := by
  unfold Producer.post
  split
  · exact move_modify (by intro; rfl) p s d
  · exact move_refl p d

theorem move_claim (p : Producer) (s : SessionId) (found : List TaskId) :
    Move p (.looking s [] found) (p.claim s found) := by
  cases closed : p.isClosed s with
  | false => exact .claimed closed
  | true =>
    simp only [Producer.claim, closed, if_true]
    exact move_refl p _

theorem deliver_move (p : Producer) (s : SessionId) (task : Task) :
    Move p (.delivering s task) (p.deliver s task).2 := by
  unfold Producer.deliver
  split
  · exact move_refl p _
  · next opened =>
    have opened : p.isClosed s = false := by simpa using opened
    simp only [Producer.post]
    split
    · next sent =>
      split at sent
      · cases sent
        exact .handed opened rfl fun t => Producer.isClosed_modify (by intro; rfl) p s t
      · cases sent
    · exact move_refl p _

/-- Nobody is closed and nothing changes hands when the next message is taken from a session. -/
theorem nextMessage_move {message : List UInt8} (taken : p.nextMessage s = some (message, q))
    (d : Duty) : Move p d q := by
  simp only [Producer.nextMessage, Option.bind_eq_bind, Option.bind_eq_some_iff, Option.pure_def,
    Option.some.injEq, Prod.mk.injEq] at taken
  obtain ⟨session, -, body, -, -, rfl⟩ := taken
  exact move_modify (by intro; rfl) p s d

/-- Nor does it matter that nobody writes to a session any more. -/
theorem move_mute (move : Move p (.writing s) q) (t : SessionId) :
    Move p (.writing s) (q.mute t) := by
  cases move with
  | still owners opened =>
    refine .still owners fun u before => ?_
    have same : (q.mute t).isClosed u = q.isClosed u :=
      Producer.isClosed_modify (by intro; rfl) q t u
    exact same.trans (opened u before)

theorem step_move {wall : UInt64} {now : Nat} {v : Service} {turn : Turn Service Duty}
    (step : d.step wall now v = some turn) : Move v.producer d turn.state.producer := by
  cases step_does step with
  | accept welcomed =>
    cases welcomed
    exact .still rfl fun t opened => v.producer.isClosed_welcome _ opened
  | malformed _ => exact move_post _ _ _ _
  | @obey _ network _ _ => exact obey_move _ { v with network } _ _
  | claim => exact move_claim _ _ _
  | leave => exact .left
  | part => exact .still rfl fun _ opened => opened
  | @deliver s task producer sent =>
    have move := deliver_move v.producer s task
    rw [sent] at move
    exact move
  | write taken => exact nextMessage_move taken _
  | mute written =>
    rcases written with rfl | ⟨body, taken⟩
    · exact move_mute (move_refl _ _) _
    · exact move_mute (nextMessage_move taken _) _
  | unlisten | hangUp | settle _ | settled _ | look _ | giveBack _ | givenBack _ | select _
  | selected _ | unselected _ _ | refuse _ | handBack _ | handedBack _ => exact move_refl _ _

/-! ## 3. Taking a task -/

/-- The ways of coming to hold a task: to recover it, or to have it delivered. -/
def Takes (d : Duty) (s : SessionId) (id : TaskId) : Prop :=
  (∃ found, d = .looking s [] found ∧ id ∈ found) ∨ ∃ task, d = .delivering s task ∧ task.id = id

/-- Whoever comes to hold a task recovers one that nobody holds, or has it delivered. -/
theorem Move.takes (move : Move p d q) (after : q.holder id = some s)
    (before : p.holder id ≠ some s) :
    d.Takes s id ∧ (p.holder id = none ∨ ∃ task, d = .delivering s task) := by
  cases move with
  | still owners _ =>
    rw [Producer.holder_eq owners] at after
    exact absurd after before
  | gaveUp _ =>
    simp only [Producer.holder, Table.get?_erase] at after before
    split at after
    · cases after
    · exact absurd after before
  | claimed opened =>
    rw [Producer.holder_claim opened] at after
    split at after
    · next free =>
      cases after
      exact ⟨.inl ⟨_, rfl, free.1⟩, .inl free.2⟩
    · exact absurd after before
  | left =>
    -- A session that leaves only makes holders disappear.
    rw [Producer.holder_close] at after
    split at after
    · cases after
    · exact absurd after before
  | handed _ owners _ =>
    rw [Producer.holder, owners, Table.get?_insert] at after
    split at after
    · next own =>
      cases after
      exact ⟨.inr ⟨_, rfl, own.symm⟩, .inr ⟨_, rfl⟩⟩
    · exact absurd after before

/-! ## 4. Open sessions -/

/-- Only sessions that are open hold tasks. -/
def HeldOpen (p : Producer) : Prop :=
  ∀ id s, p.holder id = some s → p.isClosed s = false

theorem Move.keeps_open (move : Move p d q) (held : HeldOpen p) : HeldOpen q := by
  intro id s holds
  cases move with
  | still owners opened =>
    rw [Producer.holder_eq owners] at holds
    exact opened s (held id s holds)
  | gaveUp _ =>
    simp only [Producer.holder, Table.get?_erase] at holds
    split at holds
    · cases holds
    · exact held id s holds
  | @claimed t found opened =>
    have same : (p.claim t found).isClosed s = p.isClosed s := by
      simp only [Producer.claim, opened, Bool.false_eq_true, if_false]
      rfl
    rw [same]
    rw [Producer.holder_claim opened] at holds
    split at holds
    · cases holds
      exact opened
    · exact held id s holds
  | @left t =>
    rw [Producer.holder_close] at holds
    split at holds
    · cases holds
    · next stays =>
      have differs : s ≠ t := by
        rintro rfl
        exact stays holds
      rw [Producer.isClosed_close p differs]
      exact held id s holds
  | handed opened owners same =>
    rw [same]
    rw [Producer.holder, owners, Table.get?_insert] at holds
    split at holds
    · cases holds
      exact opened
    · exact held id s holds

end Duty

end TaskQueue
