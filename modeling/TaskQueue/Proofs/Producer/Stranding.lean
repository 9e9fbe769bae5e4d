import TaskQueue.Proofs.Producer.Leaving
import TaskQueue.Proofs.Producer.Serving
import TaskQueue.Proofs.Producer.Settling

/-!
# No task is stranded

A running task is held by an open session, or somebody is about to do something about it: it was
chosen and is being delivered, or it was given up and the engine is about to be told.

Results:
1. `step_keeps`: after a step of a duty, each running task is looked after if it was before.
2. `Run.strands_nothing`: in every run each running task is held by an open session or concerns a
   duty, and when no session and no acquire is left, nothing is held and nothing is running.
-/

namespace TaskQueue

/-! ## 1. Duties -/

namespace Duty

/-- The call that a duty waits for. -/
def call? : Duty → Option (Call Bool)
  | .settling _ call | .returning _ call _ | .handingBack call => some call
  | _ => none

/-- A call that a duty waits for has failed. -/
def hasFailed (d : Duty) : Bool :=
  d.call?.any Call.hasFailed

/-- A task is the subject of a duty: it was chosen and is not delivered yet, or it was given up, or
reported done, and the engine has not been told yet. -/
def Concerns (id : TaskId) : Duty → Prop
  | .settling _ call => call.Settles id ∧ call.result? = none
  | .returning _ call left => call.Settles id ∧ call.result? = none ∨ id ∈ left
  | .selecting _ acquirer => ∃ task, acquirer.result? = some (.ok (some task)) ∧ task.id = id
  | .delivering _ task => task.id = id
  | .handingBack call => call.Settles id ∧ call.result? = none
  | _ => False

/-- Whether a duty is part of a session or of an acquire. The others accept connections and write
messages. -/
def isActive : Duty → Bool
  | .accepting | .writing _ => false
  | _ => true

theorem not_concerns_idle {d : Duty} {id : TaskId} (idle : d.isActive = false) :
    ¬ d.Concerns id := by
  cases d with
  | accepting | writing _ => exact nofun
  | _ => cases idle

/-- Every call that a duty waits for settles a task. -/
def Settles (d : Duty) : Prop :=
  ∀ call, d.call? = some call → ∃ id, call.Settles id

variable {wall : UInt64} {now : Nat} {v : Service} {d : Duty} {turn : Turn Service Duty}
  {s t : SessionId} {id : TaskId}

theorem giveBack_settles (s : SessionId) (ids : List TaskId) : (giveBack s ids).Settles := by
  cases ids with
  | nil => exact nofun
  | cons id left =>
    rintro call ⟨⟩
    exact ⟨id, .inr ⟨true, rfl⟩⟩

theorem giveBack_concerns {ids : List TaskId} (member : id ∈ ids) :
    (giveBack s ids).Concerns id := by
  cases ids with
  | nil => cases member
  | cons first left =>
    rcases List.mem_cons.mp member with rfl | later
    · exact .inl ⟨.inr ⟨true, rfl⟩, rfl⟩
    · exact .inr later

/-- Somebody looks after a task: a session holds it, or a duty is concerned with it or failed. -/
def Attended (p : Producer) (duties : List Duty) (id : TaskId) : Prop :=
  p.holder id ≠ none ∨ ∃ d ∈ duties, d.Concerns id ∨ d.hasFailed = true

/-- After a step each running task is looked after, unless it ran before and neither a session nor
the duty looked after it. -/
structure Keeps (v : Service) (d : Duty) (w : Service) (duties : List Duty) : Prop where
  settles : ∀ d' ∈ duties, d'.Settles
  attends : ∀ id, w.engine.store.committed.Runs id → Attended w.producer duties id ∨
    v.engine.store.committed.Runs id ∧ v.producer.holder id = none ∧ ¬ d.Concerns id

/-- A step that does not touch the engine keeps what was held and what the duty was to do. -/
theorem keeps_engine {w : Service} {duties : List Duty} (settles : ∀ d' ∈ duties, d'.Settles)
    (engine : w.engine.store.committed = v.engine.store.committed)
    (held : ∀ id, v.producer.holder id ≠ none → Attended w.producer duties id)
    (concerned : ∀ id, d.Concerns id → Attended w.producer duties id) : Keeps v d w duties := by
  refine ⟨settles, fun id runs => ?_⟩
  by_cases holds : v.producer.holder id = none
  · by_cases concerns : d.Concerns id
    · exact .inl (concerned id concerns)
    · rw [engine] at runs
      exact .inr ⟨runs, holds, concerns⟩
  · exact .inl (held id holds)

/-- A duty that is concerned with nothing leaves the engine and the holders as they are. -/
theorem keeps_still {w : Service} {duties : List Duty} (settles : ∀ d' ∈ duties, d'.Settles)
    (engine : w.engine.store.committed = v.engine.store.committed)
    (owners : w.producer.owners = v.producer.owners) (idle : ∀ id, ¬ d.Concerns id) :
    Keeps v d w duties := by
  refine keeps_engine settles engine (fun id holds => .inl ?_) fun id concerns => ?_
  · rwa [Producer.holder_eq owners]
  · exact absurd concerns (idle id)

/-- A step of the call that a duty waits for. The duty goes on to be concerned with the task of the
call until it is over, and with the others. -/
theorem keeps_call {engine : Engine} {call call' : Call Bool} {d' : Duty}
    (h : v.engine.store.committed.WellFormed) (settles : d.Settles) (waits : d.call? = some call)
    (went : call.step now v.engine = some (engine, call')) (waits' : d'.call? = some call')
    (old : ∀ id, d.Concerns id → call.Settles id ∨ d'.Concerns id)
    (new : ∀ id, call'.Settles id → call'.result? = none → d'.Concerns id) :
    Keeps v d { v with engine } [d'] := by
  obtain ⟨own, settles⟩ := settles call waits
  have failed : d'.hasFailed = call'.hasFailed := by rw [hasFailed, waits', Option.any_some]
  refine ⟨?_, fun id runs => ?_⟩
  · intro other member c same
    obtain rfl := List.mem_singleton.mp member
    rw [waits'] at same
    cases same
    exact ⟨own, (settles.step h went).1⟩
  · have before := ((settles.step h went).2 id runs).1
    by_cases holds : v.producer.holder id = none
    · by_cases concerns : d.Concerns id
      · refine .inl (.inr ⟨d', List.mem_singleton_self d', ?_⟩)
        rcases old id concerns with settles | still
        · have stepped := settles.step h went
          rcases (stepped.2 id runs).2 rfl with goesOn | fails
          · exact .inl (new id stepped.1 goesOn)
          · exact .inr (failed.trans fails)
        · exact .inl still
      · exact .inr ⟨before, holds, concerns⟩
    · exact .inl (.inl holds)

theorem holder_release_other {p : Producer} {other : TaskId} (differs : other ≠ id) :
    (p.release s id).2.holder other = p.holder other := by
  rcases p.release_cases s id with same | ⟨-, erased⟩
  · rw [same]
  · rw [erased, Producer.holder, Producer.holder, Table.get?_erase, if_neg differs]

/-- A session gives a task up and tells the engine. -/
theorem keeps_release {w : Service} {op : Operation Bool} (settles : op.Settles id)
    (engine : w.engine = v.engine) (producer : w.producer = (v.producer.release s id).2) :
    Keeps v (.reading s) w [.settling s (.starting op)] := by
  refine keeps_engine ?_ (by rw [engine]) (fun other held => ?_) (fun _ => nofun)
  · intro d member call waits
    obtain rfl := List.mem_singleton.mp member
    cases waits
    exact ⟨id, settles⟩
  · by_cases own : other = id
    · subst own
      exact .inr ⟨_, List.mem_singleton_self _, .inl ⟨settles, rfl⟩⟩
    · refine .inl ?_
      rwa [producer, holder_release_other own]

theorem obey_keeps (wall : UInt64) (v : Service) (network : Network) (s : SessionId)
    (command : Command) :
    let turn := obey wall { v with network } s command
    Keeps v (.reading s) turn.state (turn.self.toList ++ turn.started) := by
  have settles (id : TaskId) (requeue : Bool) :
      Keeps v (.reading s) { v with network, producer := (settle v.producer s id requeue).1 }
        [(settle v.producer s id requeue).2] := by
    rcases settle_cases v.producer s id requeue with gives | ignores
    · rw [gives]
      exact keeps_release (.inr ⟨requeue, rfl⟩) rfl rfl
    · rw [ignores]
      exact keeps_still (by simp [Settles, call?]) rfl rfl fun _ => nofun
  cases command with
  | ready => exact keeps_still (by simp [obey, Settles, call?]) rfl rfl fun _ => nofun
  | ack id => exact keeps_release (.inl ⟨wall, rfl⟩) rfl rfl
  | nack id requeue => exact settles id requeue
  | error id => exact settles id false
  | recover ids =>
    exact keeps_still (by simp [obey, Settles, call?, Turn.next]) rfl rfl fun _ => nofun

/-- A session that leaves has all that it held tried again. -/
theorem keeps_leave (v : Service) (s : SessionId) :
    Keeps v (.leaving s) { v with producer := (v.producer.close s).2 }
      [giveBack s (v.producer.heldBy s)] := by
  refine keeps_engine ?_ rfl (fun id held => ?_) fun _ => nofun
  · exact List.forall_mem_singleton.mpr (giveBack_settles s _)
  · by_cases own : v.producer.holder id = some s
    · have concerns := giveBack_concerns (s := s) (Producer.mem_heldBy.mpr own)
      exact .inr ⟨_, List.mem_singleton_self _, .inl concerns⟩
    · refine .inl ?_
      simp only [Producer.holder_close, own, if_false]
      exact held

theorem keeps_claim (v : Service) (s : SessionId) (found : List TaskId) :
    Keeps v (.looking s [] found) { v with producer := v.producer.claim s found } [.reading s] := by
  refine keeps_engine (by simp [Settles, call?]) rfl (fun id held => .inl ?_) fun _ => nofun
  cases closed : v.producer.isClosed s with
  | true => simpa [Producer.claim, closed] using held
  | false =>
    simp only [Producer.holder_claim closed, held, and_false, if_false]
    exact held

theorem deliver_sent {p q : Producer} {task : Task} (sent : p.deliver s task = (.sent, q)) :
    q.owners = p.owners.insert task.id s := by
  unfold Producer.deliver Producer.post at sent
  split at sent
  · cases sent
  · split at sent
    · next posted =>
      split at posted
      · cases posted
        cases sent
        rfl
      · cases posted
    · cases sent

/-- Someone who acquires goes on. -/
theorem keeps_select {engine : Engine} {acquirer acquirer' : Acquirer} {ending : Bool}
    (h : v.engine.store.committed.WellFormed)
    (went : (if ending then acquirer.cancel else acquirer).step now wall v.engine =
      some (engine, acquirer')) :
    Keeps v (.selecting s acquirer) { v with engine } [.selecting s acquirer'] := by
  refine ⟨by simp [Settles, call?], fun id runs => ?_⟩
  by_cases holds : v.producer.holder id = none
  · rcases Acquirer.step_starts h went runs with before | chosen
    · refine .inr ⟨before, holds, ?_⟩
      rintro ⟨task, chosen, -⟩
      rw [Acquirer.step_over] at went
      · cases went
      · split <;> exact Option.isSome_of_eq_some chosen
    · exact .inl (.inr ⟨_, List.mem_singleton_self _, .inl chosen⟩)
  · exact .inl (.inl holds)

/-- A call that is over concerns nobody. -/
theorem not_concerns_over {call : Call Bool} (ended : call.result?.isSome = true)
    (waits : call.Settles id ∧ call.result? = none) : False := by
  rw [waits.2] at ended
  cases ended

/-- What a step of a duty does about running tasks. -/
theorem step_keeps (h : v.engine.store.committed.WellFormed) (settles : d.Settles)
    (step : d.step wall now v = some turn) :
    Keeps v d turn.state (turn.self.toList ++ turn.started) := by
  have move := step_move step
  cases step_does step with
  | unlisten | part => exact keeps_still (by simp [Turn.last]) rfl rfl (by rintro _ ⟨⟩)
  | accept welcomed =>
    cases welcomed
    exact keeps_still (by simp [Settles, call?]) rfl rfl (by rintro _ ⟨⟩)
  | hangUp | look _ =>
    exact keeps_still (by simp [Settles, call?, Turn.next]) rfl rfl (by rintro _ ⟨⟩)
  | malformed _ =>
    refine keeps_still (by simp [Settles, call?, Turn.next]) rfl ?_ (by rintro _ ⟨⟩)
    simp only [Turn.next, Producer.post]
    split <;> rfl
  | @obey s network command _ => exact obey_keeps wall v network s command
  | settle went =>
    exact keeps_call h settles rfl went rfl (fun _ concerns => .inl concerns.1)
      fun _ settles goesOn => ⟨settles, goesOn⟩
  | settled ended =>
    exact keeps_still (by simp [Settles, call?, Turn.next]) rfl rfl fun _ => not_concerns_over ended
  | claim => exact keeps_claim v _ _
  | leave => exact keeps_leave v _
  | giveBack went =>
    exact keeps_call h settles rfl went rfl
      (fun _ concerns => concerns.imp And.left .inr) fun _ settles goesOn => .inl ⟨settles, goesOn⟩
  | @givenBack s call left ended =>
    refine keeps_engine ?_ rfl (fun id held => .inl held) fun id concerns => ?_
    · exact List.forall_mem_singleton.mpr (giveBack_settles s left)
    · rcases concerns with waits | later
      · exact (not_concerns_over ended waits).elim
      · exact .inr ⟨_, List.mem_singleton_self _, .inl (giveBack_concerns later)⟩
  | select went => exact keeps_select h went
  | @selected s acquirer task result =>
    refine keeps_engine (by simp [Settles, call?, Turn.next]) rfl (fun id held => .inl held) ?_
    rintro id ⟨other, chosen, own⟩
    rw [result] at chosen
    cases chosen
    exact .inr ⟨_, List.mem_singleton_self _, .inl own⟩
  | unselected result nothing =>
    refine keeps_still (by simp [Turn.last]) rfl rfl ?_
    rintro id ⟨task, chosen, -⟩
    rw [result] at chosen
    exact nothing task (Option.some.inj chosen)
  | @deliver s task producer sent =>
    refine keeps_engine (by simp [Turn.last]) rfl (fun id held => .inl ?_) fun id own => .inl ?_
    · simp only [Turn.last, Producer.holder, deliver_sent sent, Table.get?_insert]
      split
      · rintro ⟨⟩
      · exact held
    · obtain rfl := own
      simp [Turn.last, Producer.holder, deliver_sent sent]
  | @refuse s task refused =>
    refine keeps_engine ?_ rfl (fun id held => .inl held) fun id own => ?_
    · refine List.forall_mem_singleton.mpr ?_
      rintro call ⟨⟩
      exact ⟨task.id, .inr ⟨true, rfl⟩⟩
    · obtain rfl := own
      exact .inr ⟨_, List.mem_singleton_self _, .inl ⟨.inr ⟨true, rfl⟩, rfl⟩⟩
  | handBack went =>
    exact keeps_call h settles rfl went rfl (fun _ concerns => .inl concerns.1)
      fun _ settles goesOn => ⟨settles, goesOn⟩
  | handedBack ended =>
    exact keeps_still (by simp [Turn.last]) rfl rfl fun _ => not_concerns_over ended
  | write taken =>
    cases move with
    | still owners _ =>
      exact keeps_still (by simp [Settles, call?, Turn.next]) rfl owners (by rintro _ ⟨⟩)
  | mute _ =>
    cases move with
    | still owners _ => exact keeps_still (by simp [Turn.last]) rfl owners (by rintro _ ⟨⟩)

end Duty

/-! ## 2. Runs -/

/-- Nobody outside starts a task, and no call that a duty waits for has failed. -/
def Moment.Orderly (x : Moment) : Prop :=
  match x.duty with
  | none => ∀ id, x.after.isRunning id = .ok true → x.before.isRunning id = .ok true
  | some d => d.hasFailed = false

theorem Moment.orderly_duty {x : Moment} (orderly : x.duty.any (!·.hasFailed) = true) :
    x.Orderly := by
  unfold Orderly
  cases duty : x.duty with
  | none => simp [duty] at orderly
  | some d => simpa [duty] using orderly

namespace Hall

variable {start f g : Hall} {h : List Moment} {x : Moment} {s : SessionId} {id : TaskId}

/-- Each running task is looked after, and each open session is read from. -/
structure Tended (f : Hall) : Prop where
  settles : ∀ d ∈ f.duties, d.Settles
  attended : ∀ id, f.service.engine.store.committed.Runs id →
    Duty.Attended f.service.producer f.duties id
  served : ∀ s, f.service.producer.isClosed s = false → ∃ d ∈ f.duties, d.serves = some s

theorem Step.tended (wellFormed : f.service.engine.store.committed.WellFormed) (tended : Tended f)
    (step : Step f x g) (orderly : x.Orderly) : Tended g := by
  obtain ⟨settles, attended, served⟩ := tended
  cases step with
  | @duty v front back d turn wall now step =>
    have unfailed : d.hasFailed = false := orderly
    have known : d ∈ front ++ d :: back := by simp
    have keeps := Duty.step_keeps wellFormed (settles d known) step
    have opens := Duty.step_opens step
    have old {d' : Duty} (member : d' ∈ front ++ back) : d' ∈ front ++ d :: back :=
      List.perm_middle.mem_iff.mpr (List.mem_cons_of_mem d member)
    -- The duty that took the step is replaced, and the others stay as they are.
    have among {d' : Duty} : d' ∈ front ++ turn.self.toList ++ back ++ turn.started ↔
        d' ∈ front ++ back ∨ d' ∈ turn.self.toList ++ turn.started := by
      simp only [List.mem_append]
      tauto
    refine ⟨fun d' member => ?_, fun id runs => ?_, fun s opened => ?_⟩
    · rcases among.mp member with other | new
      · exact settles d' (old other)
      · exact keeps.settles d' new
    · rcases keeps.attends id runs with (holds | ⟨d', new, looks⟩) | ⟨before, free, idle⟩
      · exact .inl holds
      · exact .inr ⟨d', among.mpr (.inr new), looks⟩
      · rcases attended id before with holds | ⟨d', member, looks⟩
        · exact absurd free holds
        · rcases List.mem_cons.mp (List.perm_middle.mem_iff.mp member) with rfl | other
          · rw [unfailed] at looks
            exact absurd (looks.resolve_right nofun) idle
          · exact .inr ⟨d', among.mpr (.inl other), looks⟩
    · rcases opens s opened with ⟨d', new, serves⟩ | ⟨before, others⟩
      · exact ⟨d', among.mpr (.inr new), serves⟩
      · obtain ⟨d', member, serves⟩ := served s before
        rcases List.mem_cons.mp (List.perm_middle.mem_iff.mp member) with rfl | other
        · exact absurd serves others
        · exact ⟨d', among.mpr (.inl other), serves⟩
  | @outside v w duties shutdown left same =>
    refine ⟨settles, fun id runs => ?_, fun s opened => ?_⟩
    · have before := orderly id (Service.isRunning_iff.mpr runs)
      have attends := attended id (Service.isRunning_iff.mp before)
      simp only [same]
      exact attends
    · simp only [same] at opened
      exact served s opened

theorem Run.tended (new : New start) (idle : ∀ id, start.service.isRunning id = .ok false)
    (run : Run start h f) (orderly : ∀ x ∈ h, x.Orderly) : Tended f := by
  induction run with
  | nil =>
    obtain ⟨settings, address, fresh⟩ := new.producer
    refine ⟨?_, fun id runs => ?_, fun s opened => ?_⟩
    · rw [new.duties]
      simp [Duty.Settles, Duty.call?]
    · have running := Service.isRunning_iff.mpr runs
      rw [idle] at running
      cases running
    · rw [fresh] at opened
      cases opened
  | snoc earlier step ih =>
    have before := ih fun x member => orderly x (List.mem_append_left _ member)
    exact step.tended (earlier.sound new).wellFormed before (orderly _ (by simp))

/-- Nothing is held when no session is open. -/
theorem heldCount_eq_zero {p : Producer} (held : Duty.HeldOpen p)
    (closed : ∀ s, p.isClosed s = true) : p.heldCount = 0 := by
  rw [Producer.heldCount, Table.size, List.length_eq_zero_iff]
  by_contra some
  obtain ⟨⟨id, s⟩, known⟩ := List.exists_mem_of_ne_nil _ some
  have opened := held id s (Table.get?_eq_some_iff.mpr known)
  rw [closed] at opened
  cases opened

/-- If no task runs at the beginning, nobody else starts any, and no call fails, then each running
task is held by an open session, or a duty is concerned with it: it was chosen and is not delivered
yet, or it was settled or given up and the engine has not been told yet. When neither a session nor
an acquire is left, nothing is held and no task is running. -/
theorem Run.strands_nothing (new : New start)
    (idle : ∀ id, start.service.isRunning id = .ok false) (run : Run start h f)
    (orderly : ∀ x ∈ h, x.Orderly) (unfailed : ∀ d ∈ f.duties, d.hasFailed = false) :
    (∀ id, f.service.isRunning id = .ok true →
      (∃ s, f.service.producer.holder id = some s ∧ f.service.producer.isClosed s = false) ∨
        ∃ d ∈ f.duties, d.Concerns id) ∧
    ((∀ d ∈ f.duties, d.isActive = false) →
      f.service.producer.heldCount = 0 ∧ ∀ id, f.service.isRunning id = .ok false) := by
  have tended := run.tended new idle orderly
  have held := run.heldOpen new
  have attended : ∀ id, f.service.isRunning id = .ok true →
      (∃ s, f.service.producer.holder id = some s ∧ f.service.producer.isClosed s = false) ∨
        ∃ d ∈ f.duties, d.Concerns id := by
    intro id running
    rcases tended.attended id (Service.isRunning_iff.mp running) with holds | ⟨d, known, looks⟩
    · obtain ⟨s, holds⟩ := Option.ne_none_iff_exists'.mp holds
      exact .inl ⟨s, holds, held id s holds⟩
    · rw [unfailed d known] at looks
      exact .inr ⟨d, known, looks.resolve_right nofun⟩
  refine ⟨attended, fun ended => ?_⟩
  have closed (s : SessionId) : f.service.producer.isClosed s = true := by
    by_contra opened
    obtain ⟨d, known, serves⟩ := tended.served s (by simpa using opened)
    have idle := ended d known
    cases d with
    | accepting | writing _ => cases serves
    | _ => cases idle
  refine ⟨heldCount_eq_zero held closed, fun id => ?_⟩
  cases running : (f.service.engine.store.committed.tasks.get? id).any (·.state = .running) with
  | false => rw [Service.isRunning_eq, running]
  | true =>
    rcases attended id (by rw [Service.isRunning_eq, running]) with
      ⟨s, -, opened⟩ | ⟨d, known, concerns⟩
    · rw [closed] at opened
      cases opened
    · exact absurd concerns (Duty.not_concerns_idle (ended d known))

/-- A consumer asks for a task and hangs up before it is chosen. The task cannot be delivered any
more and is tried again, and nothing is left. -/
theorem Run.strands_nothing_hung_up :
    let id : TaskId := .ofNat 1
    let address : Address := "localhost:7000"
    let start : Hall := ⟨⟨{ Engine.new .inMemory .standard with store := { Store.new .inMemory with
        committed := (Contents.empty.answer (.queue [.new id 0 "job" default])).2 } },
      { Network.new [] with
        connections := [⟨{ Pipe.new with
          bytes := (Frame.pack 1024 Command.ready.encode).getD [], ended := true }, .new⟩]
        listening := [address], waiting := [(address, 0)] },
      .new .standard address⟩, [.accepting]⟩
    ∃ h f later g, New start ∧ (∀ id, start.service.isRunning id = .ok false) ∧ Run start h f ∧
      (∀ x ∈ h, x.Orderly) ∧ (∀ d ∈ f.duties, d.hasFailed = false) ∧
      f.service.isRunning id = .ok true ∧ f.service.producer.holder id = none ∧
      (∃ d ∈ f.duties, d.Concerns id) ∧ Run start (h ++ later) g ∧
      (∀ d ∈ g.duties, d.isActive = false) ∧
      g.service.producer.heldCount = 0 ∧ g.service.isRunning id = .ok false := by
  intro id address start
  have new : New start := ⟨⟨_, _, rfl⟩, Contents.wellFormed_empty.answer trivial, rfl⟩
  have idle (id : TaskId) : start.service.isRunning id = .ok false := by
    have queued : start.service.engine.store.committed.tasks.values.all
        (·.state = .queued) = true := by decide +kernel
    rw [Service.isRunning_eq]
    cases stored : start.service.engine.store.committed.tasks.get? id with
    | none => rfl
    | some task =>
      have waits := List.all_eq_true.mp queued task (Table.mem_values_iff.mpr ⟨id, stored⟩)
      simp [of_decide_eq_true waits]
  have each {α : Type} {p : α → Bool} {l : List α} (all : l.all (!p ·) = true) :
      ∀ a ∈ l, p a = false := by
    intro a member
    simpa using List.all_eq_true.mp all a member
  let middle := (start.follow 0 0 [0, 1, 3, 3, 1, 1, 1]).get (by decide +kernel)
  have run : Run start middle.1 middle.2 := .follow (Option.some_get _).symm
  let last := (middle.2.follow 0 0 [2, 2, 2, 2, 2]).get (by decide +kernel)
  have more : Run middle.2 last.1 last.2 := .follow (Option.some_get _).symm
  have checked : (middle.1 ++ last.1).all (fun x => x.duty.any (!·.hasFailed)) = true := by
    decide +kernel
  have orderly : ∀ x ∈ middle.1 ++ last.1, x.Orderly :=
    fun x member => Moment.orderly_duty (List.all_eq_true.mp checked x member)
  have early : ∀ x ∈ middle.1, x.Orderly :=
    fun x member => orderly x (List.mem_append_left _ member)
  have unfailed : ∀ d ∈ middle.2.duties, d.hasFailed = false := each (by decide +kernel)
  have running : middle.2.service.isRunning id = .ok true := by decide +kernel
  have free : middle.2.service.producer.holder id = none := by decide +kernel
  have ended : ∀ d ∈ last.2.duties, d.isActive = false := each (by decide +kernel)
  have concerned : ∃ d ∈ middle.2.duties, d.Concerns id := by
    rcases (Run.strands_nothing new idle run early unfailed).1 id running with
      ⟨s, holds, -⟩ | concerned
    · rw [free] at holds
      cases holds
    · exact concerned
  have nothing := (Run.strands_nothing new idle (run.append more) orderly
    (each (by decide +kernel))).2 ended
  exact ⟨middle.1, middle.2, last.1, last.2, new, idle, run, early, unfailed, running, free,
    concerned, run.append more, ended, nothing.1, nothing.2 id⟩

end Hall

end TaskQueue
