import TaskQueue.Proofs.Producer.Hall
import TaskQueue.Proofs.Producer.Serving

/-!
# Sessions that have left

A session is closed by leaving, once and for all. It gives up all that it holds in the same step,
and what was on its way to it then comes too late.

Results:
1. `step_marks`: which sessions a step of a duty closes.
2. `Run.hasLeft_iff`: in every run exactly those sessions are closed that have left.
3. `Run.leavers_hold_nothing`: only sessions hold tasks that began and are not closed, and from the
   moment at which a session leaves it holds nothing and is given nothing.
-/

namespace TaskQueue

/-! ## 1. Closed sessions -/

namespace Producer

/-- A session that began and is closed. -/
def HasLeft (p : Producer) (s : SessionId) : Prop :=
  ∃ session, p.sessions[s]? = some session ∧ session.closed = true

variable {p : Producer} {s : SessionId}

theorem hasLeft_iff_flags : p.HasLeft s ↔ p.flags[s]? = some true := by
  rw [HasLeft, flags, List.getElem?_map, Option.map_eq_some_iff]

theorem not_hasLeft (opened : p.isClosed s = false) : ¬ p.HasLeft s := by
  rintro ⟨session, known, closed⟩
  rw [isClosed, known, Option.all_some, closed] at opened
  cases opened

theorem HasLeft.isClosed (left : p.HasLeft s) : p.isClosed s = true := by
  obtain ⟨session, known, closed⟩ := left
  rw [Producer.isClosed, known, Option.all_some, closed]

/-- A session that is open began. -/
theorem exists_of_opened (opened : p.isClosed s = false) :
    ∃ session, p.sessions[s]? = some session ∧ session.closed = false := by
  cases known : p.sessions[s]? with
  | none =>
    rw [Producer.isClosed, known] at opened
    cases opened
  | some session =>
    rw [Producer.isClosed, known, Option.all_some] at opened
    exact ⟨session, rfl, opened⟩

end Producer

namespace Duty

variable {wall : UInt64} {now : Nat} {p q : Producer} {v : Service} {d : Duty}
  {turn : Turn Service Duty} {s t : SessionId}

/-- What a step of a duty can do to the flags of the sessions. -/
inductive Marks (p : Producer) : Duty → Producer → Prop
  | same {d : Duty} {q : Producer} : (∀ s, d ≠ .leaving s) → q.flags = p.flags → Marks p d q
  | begins {q : Producer} : q.flags = p.flags ++ [false] → Marks p .accepting q
  | closes {s : SessionId} {q : Producer} : q.flags = p.flags.set s true → Marks p (.leaving s) q

theorem obey_marks (wall : UInt64) (v : Service) (s : SessionId) (command : Command) :
    Marks v.producer (.reading s) (obey wall v s command).state.producer := by
  refine .same (by simp) ?_
  cases command with
  | ready | recover ids => rfl
  | ack id | nack id requeue | error id => exact flags_release v.producer s id

theorem step_marks (step : d.step wall now v = some turn) :
    Marks v.producer d turn.state.producer := by
  cases step_does step with
  | accept welcomed =>
    cases welcomed
    exact .begins (flags_welcome v.producer _)
  | malformed _ => exact .same (by simp) (flags_post v.producer _ _)
  | @obey _ network _ _ => exact obey_marks _ { v with network } _ _
  | claim => exact .same (by simp) (flags_claim v.producer _ _)
  | leave => exact .closes (flags_close v.producer _)
  | @deliver s task producer sent =>
    have same := flags_deliver v.producer s task
    rw [sent] at same
    exact .same (by simp) same
  | write taken => exact .same (by simp) (flags_nextMessage taken)
  | mute written =>
    refine .same (by simp) ((Producer.flags_modify (by intro; rfl) _ _).trans ?_)
    rcases written with rfl | ⟨body, taken⟩
    · rfl
    · exact flags_nextMessage taken
  | unlisten | part | hangUp | settle _ | settled _ | look _ | giveBack _ | givenBack _ | select _
  | selected _ | unselected _ _ | refuse _ | handBack _ | handedBack _ =>
    exact .same (by simp) rfl

/-- A session that began is still known. -/
theorem Marks.length_le (marks : Marks p d q) : p.sessions.length ≤ q.sessions.length := by
  have count (r : Producer) : r.flags.length = r.sessions.length := List.length_map ..
  rw [← count, ← count]
  cases marks with
  | same _ flags | begins flags | closes flags => simp [flags]

/-- A session that began is closed by leaving, and stays closed. -/
theorem Marks.hasLeft_iff (marks : Marks p d q) (s : SessionId)
    (known : d = .leaving s → s < p.sessions.length) :
    q.HasLeft s ↔ p.HasLeft s ∨ d = .leaving s := by
  rw [Producer.hasLeft_iff_flags, Producer.hasLeft_iff_flags]
  cases marks with
  | same stays flags => rw [flags, or_iff_left (stays s)]
  | begins flags =>
    -- The session that begins is open.
    rw [flags, or_iff_left nofun, List.getElem?_append]
    split
    · rfl
    · next beyond =>
      rw [List.getElem?_eq_none (Nat.not_lt.mp beyond), List.getElem?_singleton]
      split <;> simp
  | @closes t q flags =>
    rw [flags, List.getElem?_set, leaving.injEq]
    by_cases own : t = s
    · have inside : t < p.flags.length := by
        rw [Producer.flags, List.length_map]
        exact own ▸ known (own ▸ rfl)
      simp [own, own ▸ inside]
    · rw [if_neg own, or_iff_left own]

/-! ## 2. Sessions of duties -/

/-- The session that a duty belongs to. -/
def session? : Duty → Option SessionId
  | .accepting | .handingBack _ => none
  | .reading s | .settling s _ | .looking s _ _ | .leaving s | .returning s _ _ | .parting s
  | .selecting s _ | .delivering s _ | .writing s => some s

theorem giveBack_session (s : SessionId) (ids : List TaskId) :
    (giveBack s ids).session? = some s := by
  cases ids <;> rfl

theorem obey_session (wall : UInt64) (v : Service) (s : SessionId) (command : Command) :
    ∀ d' ∈ (obey wall v s command).self.toList ++ (obey wall v s command).started,
      d'.session? = some s := by
  have settles (id : TaskId) (requeue : Bool) :
      (settle v.producer s id requeue).2.session? = some s := by
    rcases settle_cases v.producer s id requeue with gives | ignores
    · rw [gives]
      rfl
    · rw [ignores]
      rfl
  cases command with
  | ready | ack id | recover ids => simp [obey, Turn.next, session?]
  | nack id requeue => simpa [obey, Turn.next] using settles id requeue
  | error id => simpa [obey, Turn.next] using settles id false

/-- A duty only goes on for its own session, unless it begins one. -/
theorem step_session (step : d.step wall now v = some turn) :
    ∀ d' ∈ turn.self.toList ++ turn.started, ∀ s, d'.session? = some s →
      d.session? = some s ∨ s < turn.state.producer.sessions.length := by
  have goesOn {w : Service} {next : Duty} (same : next.session? = d.session?) :
      ∀ d' ∈ (Turn.next w next).self.toList ++ (Turn.next w next).started,
        ∀ s, d'.session? = some s → d.session? = some s ∨ s < w.producer.sessions.length := by
    intro d' member s own
    obtain rfl := List.mem_singleton.mp member
    exact .inl (same ▸ own)
  cases step_does step with
  | accept welcomed =>
    cases welcomed
    -- The session that begins is read from and written to.
    intro d' member s own
    simp only [Option.toList_some, List.cons_append, List.nil_append, List.mem_cons,
      List.not_mem_nil, or_false] at member
    right
    rw [List.length_append, List.length_singleton]
    rcases member with rfl | rfl | rfl
    · cases own
    · cases own
      exact Nat.lt_succ_self _
    · cases own
      exact Nat.lt_succ_self _
  | @obey s network command _ =>
    intro d' member t own
    rw [obey_session wall { v with network } s command d' member] at own
    exact .inl own
  | hangUp | malformed _ | settle _ | settled _ | look _ | claim | giveBack _ | select _
  | selected _ | handBack _ | write _ => exact goesOn rfl
  | leave | givenBack _ => exact goesOn (giveBack_session _ _)
  | refuse _ => simp [Turn.next, session?]
  | unlisten | part | unselected _ _ | deliver _ | handedBack _ | mute _ => simp [Turn.last]

/-! ## 3. Too late -/

/-- The session to which a duty is about to give tasks. -/
def givesTo? : Duty → Option SessionId
  | .looking s [] _ | .delivering s _ => some s
  | _ => none

/-- What is given to a session that is closed comes too late. -/
theorem step_late (step : d.step wall now v = some turn) (gives : d.givesTo? = some s)
    (closed : v.producer.isClosed s = true) : turn.state.producer = v.producer := by
  cases step_does step with
  | @claim t found =>
    obtain rfl := Option.some.inj gives
    simp only [Turn.next, Producer.claim, closed, if_true]
  | @deliver t task producer sent =>
    obtain rfl := Option.some.inj gives
    simp only [Producer.deliver, closed, if_true] at sent
    cases sent
  | refuse _ => rfl
  | _ => cases gives

end Duty

/-! ## 4. Runs -/

namespace Hall

variable {start f g : Hall} {h past later : List Moment} {x : Moment} {s : SessionId} {id : TaskId}

/-- The sessions of all duties have begun. -/
def Begun (f : Hall) : Prop :=
  ∀ d ∈ f.duties, ∀ s, d.session? = some s → s < f.service.producer.sessions.length

theorem Step.begun (step : Step f x g) (begun : Begun f) : Begun g := by
  cases step with
  | @duty v front back d turn wall now step =>
    have grows := (Duty.step_marks step).length_le
    have known (d' : Duty) (member : d' ∈ front ++ d :: back) (s : SessionId)
        (own : d'.session? = some s) : s < turn.state.producer.sessions.length :=
      Nat.lt_of_lt_of_le (begun d' member s own) grows
    intro d' member s own
    by_cases new : d' ∈ turn.self.toList ++ turn.started
    · rcases Duty.step_session step d' new s own with before | now
      · exact known d (by simp) s before
      · exact now
    · refine known d' ?_ s own
      simp only [List.mem_append, List.mem_cons] at member new ⊢
      tauto
  | outside _ same =>
    intro d member s own
    simp only [same]
    exact begun d member s own

theorem Run.begun (new : New start) (run : Run start h f) : Begun f := by
  induction run with
  | nil =>
    intro d member s own
    rw [new.duties, List.mem_singleton] at member
    subst member
    cases own
  | snoc _ step ih => exact step.begun ih

theorem Step.hasLeft_iff (step : Step f x g) (begun : Begun f) (s : SessionId) :
    g.service.producer.HasLeft s ↔
      f.service.producer.HasLeft s ∨ x.duty = some (.leaving s) := by
  cases step with
  | @duty v front back d turn wall now step =>
    have known : d = .leaving s → s < v.producer.sessions.length := by
      rintro rfl
      exact begun (.leaving s) (by simp) s rfl
    rw [(Duty.step_marks step).hasLeft_iff s known, Option.some_inj]
  | outside _ same =>
    rw [same, or_iff_left nofun]
    rfl

/-- The sessions that are closed are those that have left. -/
theorem Run.hasLeft_iff (new : New start) (run : Run start h f) (s : SessionId) :
    f.service.producer.HasLeft s ↔ ∃ x ∈ h, x.duty = some (.leaving s) := by
  induction run with
  | nil =>
    obtain ⟨settings, address, fresh⟩ := new.producer
    rw [fresh]
    simp [Producer.HasLeft, Producer.new]
  | @snoc h f g x earlier step ih =>
    rw [step.hasLeft_iff (earlier.begun new), ih]
    simp [or_and_right, exists_or]

/-- In every run only sessions hold tasks that have begun and are not closed, and the sessions that
are closed are those that have left. From the moment at which a session leaves it holds nothing, and
whatever is recovered by it or delivered to it then leaves all holders as they are. -/
theorem Run.leavers_hold_nothing (new : New start) (run : Run start h f) :
    (∀ id s, (id, s) ∈ f.service.producer.owners.entries →
      ∃ session, f.service.producer.sessions[s]? = some session ∧ session.closed = false) ∧
    (∀ s, f.service.producer.HasLeft s ↔ ∃ x ∈ h, x.duty = some (.leaving s)) ∧
    ∀ past x later s, h = past ++ x :: later → x.duty = some (.leaving s) → ∀ y ∈ x :: later,
      y.after.producer.HasLeft s ∧ y.after.producer.heldBy s = [] ∧
      ∀ d, y.duty = some d → d.givesTo? = some s → y.after.producer = y.before.producer := by
  refine ⟨fun id s held => ?_, run.hasLeft_iff new, ?_⟩
  · have opened := run.heldOpen new id s (Table.get?_eq_some_iff.mpr held)
    exact Producer.exists_of_opened opened
  · rintro past x later s rfl leaves y member
    obtain ⟨front, back, split⟩ := List.append_of_mem member
    rw [split, ← List.append_assoc] at run
    obtain ⟨g, g', earlier, step, -⟩ := run.split
    have sofar := earlier.snoc step
    -- The session left at this moment, or at an earlier one.
    have when : y = x ∨ x ∈ front := by
      cases front with
      | nil => exact .inl (List.cons.inj split).1.symm
      | cons z front =>
        rw [(List.cons.inj split).1]
        exact .inr List.mem_cons_self
    have left : g'.service.producer.HasLeft s := by
      rw [sofar.hasLeft_iff new]
      refine ⟨x, ?_, leaves⟩
      rcases when with rfl | past
      · simp
      · simp [past]
    rw [step.after, step.before]
    refine ⟨left, ?_, fun d own gives => ?_⟩
    · refine List.eq_nil_iff_forall_not_mem.mpr fun id held => ?_
      have opened := sofar.heldOpen new id s (Producer.mem_heldBy.mp held)
      exact Producer.not_hasLeft opened left
    · rcases when with rfl | past
      · rw [leaves] at own
        cases own
        cases gives
      · have before : g.service.producer.HasLeft s := by
          rw [earlier.hasLeft_iff new]
          exact ⟨x, by simp [past], leaves⟩
        cases step with
        | duty step =>
          cases own
          exact Duty.step_late step gives before.isClosed
        | outside _ _ => cases own

/-- A consumer asks for two tasks and hangs up when it has got the first. The second was chosen
before the session left and is delivered after it, when the session holds neither. -/
theorem Run.leavers_hold_nothing_late :
    let address : Address := "localhost:7000"
    let asked := (Frame.pack 1024 Command.ready.encode).getD []
    let start : Hall := ⟨⟨{ Engine.new .inMemory .standard with store := { Store.new .inMemory with
        committed := (Contents.empty.answer (.queue
          [.new (.ofNat 1) 0 "job" default, .new (.ofNat 2) 0 "job" default])).2 } },
      { Network.new [] with
        connections := [⟨{ Pipe.new with bytes := asked ++ asked, ended := true }, .new⟩]
        listening := [address], waiting := [(address, 0)] },
      .new .standard address⟩, [.accepting]⟩
    ∃ h f later g, New start ∧ Run start h f ∧ f.service.producer.heldBy 0 = [.ofNat 1] ∧
      Run start (h ++ later) g ∧ ∃ y d, later.getLast? = some y ∧ y.duty = some d ∧
        d.givesTo? = some 0 ∧ y.after.producer.heldBy 0 = [] ∧
        y.after.producer = y.before.producer := by
  intro address asked start
  have new : New start := ⟨⟨_, _, rfl⟩, Contents.wellFormed_empty.answer trivial, rfl⟩
  let middle := (start.follow 0 0 [0, 1, 1, 3, 3, 3, 3, 3, 3, 3, 1]).get (by decide +kernel)
  have run : Run start middle.1 middle.2 := .follow (Option.some_get _).symm
  let last := (middle.2.follow 0 0 [1, 3]).get (by decide +kernel)
  have more : Run middle.2 last.1 last.2 := .follow (Option.some_get _).symm
  have held : middle.2.service.producer.heldBy 0 = [.ofNat 1] := by decide +kernel
  have left : last.2.service.producer.flags[0]? = some true := by decide +kernel
  have gives : (last.1.getLast?.bind Moment.duty).bind Duty.givesTo? = some 0 := by decide +kernel
  clear_value middle last
  simp only [Option.bind_eq_some_iff] at gives
  obtain ⟨d, ⟨y, latest, own⟩, gives⟩ := gives
  have whole := run.append more
  have always := Run.leavers_hold_nothing new whole
  obtain ⟨x, known, leaves⟩ := (always.2.1 0).mp (Producer.hasLeft_iff_flags.mpr left)
  obtain ⟨past, later, split⟩ := List.append_of_mem known
  have member : y ∈ x :: later := by
    have latest' : (middle.1 ++ last.1).getLast? = some y := by
      rw [List.getLast?_append, latest, Option.some_or]
    rw [split, List.getLast?_append_cons] at latest'
    exact List.mem_of_getLast? latest'
  obtain ⟨-, nothing, late⟩ := always.2.2 past x later 0 split leaves y member
  exact ⟨middle.1, middle.2, last.1, last.2, new, run, held, whole, y, d, latest, own, gives,
    nothing, late d own gives⟩

end Hall

end TaskQueue
