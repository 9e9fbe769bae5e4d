import TaskQueue.Proofs.Producer.Ownership

/-!
# Who reads from which session

Results:
1. `opened_welcome`, `isClosed_close_self`: a session is open from the moment it begins to the
   moment it leaves. Nothing else opens or closes one (`flags_post` and the others).
2. `step_opens`: as long as a session is open, some duty reads from it.
-/

namespace TaskQueue

namespace Duty

variable {wall : UInt64} {now : Nat} {v : Service} {d : Duty} {turn : Turn Service Duty}
  {s t : SessionId} {id : TaskId}

/-! ## 1. Open sessions -/

/-- Only the session that begins is open without having been open before. -/
theorem opened_welcome {p : Producer} {connection : ConnectionId}
    (opened : (p.welcome connection).2.isClosed t = false) :
    t = p.sessions.length ∨ p.isClosed t = false := by
  rcases Nat.lt_trichotomy t p.sessions.length with old | rfl | beyond
  · refine .inr ?_
    simpa only [Producer.isClosed, Producer.welcome, List.getElem?_append_left old] using opened
  · exact .inl rfl
  · have outside : (p.sessions ++ [⟨connection, false, [], true⟩])[t]? = none := by
      rw [List.getElem?_eq_none_iff, List.length_append]
      exact beyond
    simp [Producer.isClosed, Producer.welcome, outside] at opened

theorem flags_post (p : Producer) (s : SessionId) (message : Message) :
    ((p.post s message).getD p).flags = p.flags := by
  unfold Producer.post
  split
  · exact Producer.flags_modify (by intro; rfl) p s
  · rfl

theorem flags_release (p : Producer) (s : SessionId) (id : TaskId) :
    (p.release s id).2.flags = p.flags := by
  rcases p.release_cases s id with same | ⟨-, erased⟩
  · rw [same]
  · rw [erased]
    rfl

theorem flags_claim (p : Producer) (s : SessionId) (found : List TaskId) :
    (p.claim s found).flags = p.flags := by
  unfold Producer.claim
  split <;> rfl

theorem flags_deliver (p : Producer) (s : SessionId) (task : Task) :
    (p.deliver s task).2.flags = p.flags := by
  unfold Producer.deliver Producer.post
  split
  · rfl
  · split
    · next posted =>
      split at posted
      · cases posted
        exact Producer.flags_modify (by intro; rfl) p s
      · cases posted
    · rfl

theorem flags_nextMessage {p q : Producer} {message : List UInt8}
    (taken : p.nextMessage s = some (message, q)) : q.flags = p.flags := by
  simp only [Producer.nextMessage, Option.bind_eq_bind, Option.bind_eq_some_iff, Option.pure_def,
    Option.some.injEq, Prod.mk.injEq] at taken
  obtain ⟨session, -, body, -, -, rfl⟩ := taken
  exact Producer.flags_modify (by intro; rfl) p s

theorem flags_welcome (p : Producer) (connection : ConnectionId) :
    (p.welcome connection).2.flags = p.flags ++ [false] := by
  simp [Producer.flags, Producer.welcome]

theorem flags_close (p : Producer) (s : SessionId) :
    (p.close s).2.flags = p.flags.set s true := by
  refine List.ext_getElem? fun t => ?_
  simp only [Producer.flags, Producer.close, Producer.modify, List.getElem?_map,
    List.getElem?_modify, List.getElem?_set']
  by_cases own : s = t
  · subst own
    cases p.sessions[s]? <;> simp
  · simp [own]

theorem isClosed_close_self (p : Producer) (s : SessionId) : (p.close s).2.isClosed s = true := by
  simp only [Producer.isClosed, Producer.close, Producer.modify, List.getElem?_modify]
  cases p.sessions[s]? <;> simp

/-! ## 2. Reading -/

/-- The session that a duty reads from, up to its end. -/
def serves : Duty → Option SessionId
  | .reading s | .settling s _ | .looking s _ _ | .leaving s => some s
  | _ => none

/-- A session that is open after a step is read from, or was open before and is not that of the
duty. -/
def Opens (v : Service) (d : Duty) (w : Service) (duties : List Duty) : Prop :=
  ∀ t, w.producer.isClosed t = false → (∃ d' ∈ duties, d'.serves = some t) ∨
    v.producer.isClosed t = false ∧ d.serves ≠ some t

/-- No session is closed or begins, and the duty goes on to serve its own. -/
theorem opens_same {w : Service} {duties : List Duty}
    (same : w.producer.flags = v.producer.flags)
    (goesOn : ∀ t, d.serves = some t → ∃ d' ∈ duties, d'.serves = some t) :
    Opens v d w duties := by
  intro t opened
  by_cases own : d.serves = some t
  · exact .inl (goesOn t own)
  · rw [Producer.isClosed_congr same] at opened
    exact .inr ⟨opened, own⟩

/-- A session settles a task, unless another session holds it. -/
theorem settle_cases (p : Producer) (s : SessionId) (id : TaskId) (requeue : Bool) :
    settle p s id requeue = ((p.release s id).2, .settling s (.starting (.cancel id requeue))) ∨
      settle p s id requeue = (p, .reading s) := by
  unfold settle Producer.release
  cases p.owners.get? id with
  | none => exact .inl rfl
  | some owner =>
    by_cases own : owner = s
    · exact .inl (by simp [own])
    · exact .inr (by simp [own])

theorem settle_serves (p : Producer) (s : SessionId) (id : TaskId) (requeue : Bool) :
    (settle p s id requeue).2.serves = some s := by
  rcases settle_cases p s id requeue with gives | ignores
  · rw [gives]
    rfl
  · rw [ignores]
    rfl

theorem obey_opens (wall : UInt64) (v : Service) (network : Network) (s : SessionId)
    (command : Command) :
    let turn := obey wall { v with network } s command
    Opens v (.reading s) turn.state (turn.self.toList ++ turn.started) := by
  have settles (id : TaskId) (requeue : Bool) :
      Opens v (.reading s) { v with network, producer := (settle v.producer s id requeue).1 }
        [(settle v.producer s id requeue).2] := by
    refine opens_same (flags_release v.producer s id) fun t own =>
      ⟨_, List.mem_singleton_self _, ?_⟩
    rw [settle_serves]
    exact own
  cases command with
  | ready => exact opens_same rfl fun t own => ⟨_, List.mem_cons_self, own⟩
  | ack id =>
    exact opens_same (flags_release v.producer s id)
      fun t own => ⟨_, List.mem_singleton_self _, own⟩
  | nack id requeue => exact settles id requeue
  | error id => exact settles id false
  | recover ids => exact opens_same rfl fun t own => ⟨_, List.mem_singleton_self _, own⟩

theorem step_opens (step : d.step wall now v = some turn) :
    Opens v d turn.state (turn.self.toList ++ turn.started) := by
  cases step_does step with
  | unlisten | part => exact opens_same rfl nofun
  | accept welcomed =>
    cases welcomed
    intro t opened
    rcases opened_welcome opened with rfl | before
    · exact .inl ⟨.reading v.producer.sessions.length, by simp, rfl⟩
    · exact .inr ⟨before, nofun⟩
  | hangUp | look _ | settle _ | settled _ =>
    exact opens_same rfl fun t own => ⟨_, List.mem_singleton_self _, own⟩
  | malformed _ =>
    exact opens_same (flags_post _ _ _)
      fun t own => ⟨_, List.mem_singleton_self _, own⟩
  | @obey s network command _ => exact obey_opens wall v network s command
  | claim =>
    exact opens_same (flags_claim _ _ _)
      fun t own => ⟨_, List.mem_singleton_self _, own⟩
  | @leave s =>
    intro t opened
    have differs : t ≠ s := by
      rintro rfl
      rw [Turn.next, isClosed_close_self] at opened
      cases opened
    rw [Turn.next, Producer.isClosed_close _ differs] at opened
    exact .inr ⟨opened, fun same => differs (Option.some.inj same).symm⟩
  | giveBack _ | givenBack _ | select _ | selected _ | unselected _ _ | refuse _ | handBack _
  | handedBack _ => exact opens_same rfl nofun
  | @deliver s task producer sent =>
    have same := flags_deliver v.producer s task
    rw [sent] at same
    exact opens_same same nofun
  | write taken => exact opens_same (flags_nextMessage taken) nofun
  | mute written =>
    refine opens_same ((Producer.flags_modify (by intro; rfl) _ _).trans ?_) nofun
    rcases written with rfl | ⟨body, taken⟩
    · rfl
    · exact flags_nextMessage taken

end Duty

end TaskQueue
