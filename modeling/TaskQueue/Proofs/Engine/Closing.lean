import TaskQueue.Proofs.Engine.Wakeup

/-!
# What closing stops

Closing a queue ends waits. Whoever acquires looks whether the queue is closed only when an attempt
has found nothing, and hears of it only while waiting. So closing does not stop an attempt, and a
task that is queued, or comes to be queued, can be handed out after it.

Results:
1. `Worker.step_standing`: no worker opens a closed queue again.
2. `Acquirer.acts_closed`: in a closed queue an attempt decides how an acquire ends, and so does
   hearing that the queue is closed. Nothing else does.
3. `Acquirer.Errand.after_close`: how an acquire ends that was under way when the queue was closed,
   or began later. It is handed a task if and only if its attempt finds one.
-/

namespace TaskQueue

/-! ## 1. What stays -/

namespace Store

/-- The settings of a store and whether it was closed, which no operation changes. -/
def standing (s : Store) : StoreSettings × Bool :=
  (s.settings, s.changes.closed)

variable {s s' : Store}

theorem standing_answer (s : Store) (view : View) (q : Request) :
    (s.answer view q).2.standing = s.standing := by
  have written (c : Contents) : (s.written view c).standing = s.standing := by
    unfold written
    split
    · split <;> rfl
    · rfl
    · rfl
  change (if q.isWrite then s.written view ((s.seen view).answer q).2 else s).standing = s.standing
  split
  · exact written _
  · rfl

theorem standing_request {view : View} {q : Request} {reply : Except Failure q.Reply}
    (answered : s.request view q = (reply, s')) : s'.standing = s.standing := by
  unfold request at answered
  split at answered
  · cases answered
    rfl
  · have same := standing_answer s view q
    rw [answered] at same
    exact same

theorem standing_run {α : Type} (view : View) (p : Program α) (s : Store) :
    (s.run view p).2.standing = s.standing := by
  induction p generalizing s with
  | done => rfl
  | ask q next ih =>
    unfold run
    exact (ih _ _).trans (standing_request rfl)

theorem standing_begin {result : Except Failure SectionId} (opened : s.begin = (result, s')) :
    s'.standing = s.standing := by
  unfold begin at opened
  split at opened
  all_goals
    cases opened
    rfl

theorem standing_commit (s : Store) : s.commit.standing = s.standing := by
  unfold commit
  split <;> rfl

theorem standing_isolated {α : Type} (action : Action α) (s : Store) :
    (s.isolated action).2.standing = s.standing := by
  unfold isolated
  split
  · unfold enclose
    split
    next id inner opened =>
    obtain rfl : s.opening.2 = inner := congrArg Prod.snd opened
    have inside := standing_run (some id) action.run s.opening.2
    split
    next result after ended =>
    rw [ended] at inside
    split
    · exact (standing_commit after).trans inside
    · exact inside
  · rfl

theorem standing_proceed {α : Type} (p : Program α) (s : Store) :
    (s.proceed p).2.standing = s.standing := by
  induction p generalizing s with
  | done => rfl
  | ask q next ih =>
    unfold proceed
    split
    · rfl
    · exact (ih _ _).trans (standing_answer _ _ _)

end Store

theorem Engine.standing_conclude (e : Engine) (after : Aftermath) :
    (e.conclude after).store.standing = e.store.standing := by
  unfold conclude
  split <;> rfl

theorem Call.standing_conclude {α : Type} (e : Engine) (result : Except Failure (α × Aftermath)) :
    (conclude e result).1.store.standing = e.store.standing := by
  cases result with
  | ok answer => exact e.standing_conclude answer.2
  | error failure => rfl

theorem Call.standing_proceed {α : Type} (now : Nat) (e : Engine)
    (p : Program (Except Failure (α × Aftermath))) :
    (proceed now e p).1.store.standing = e.store.standing := by
  have same := Store.standing_proceed p e.store
  unfold proceed
  split
  · next ended =>
    rw [ended] at same
    exact (Call.standing_conclude _ _).trans same
  · next ended =>
    rw [ended] at same
    exact same

theorem Call.step_standing {α : Type} {e e' : Engine} {c c' : Call α} {now : Nat}
    (step : c.step now e = some (e', c')) : e'.store.standing = e.store.standing := by
  cases step_does step with
  | waits | givesUp => rfl
  | starts | writes | refused => exact standing_proceed now e _
  | @enters body => exact (standing_conclude _ _).trans (Store.standing_isolated body e.store)

theorem Engine.standing_perform {α : Type} (e : Engine) (op : Operation α) :
    (e.perform op).2.store.standing = e.store.standing := by
  have committed : (e.commit op).2.store.standing = e.store.standing := by
    unfold commit
    split
    · exact Store.standing_isolated op.body e.store
    · exact Store.standing_run none op.body.run e.store
  unfold perform
  split
  · next ended =>
    rw [ended] at committed
    exact (Engine.standing_conclude _ _).trans committed
  · next ended =>
    rw [ended] at committed
    exact committed

theorem Acquirer.attempt_standing (now : Nat) (wall : UInt64) (e : Engine) (a : Acquirer) :
    (a.attempt now wall e).1.store.standing = e.store.standing := by
  have same := Engine.standing_perform e (.acquire e.store.settings.cursor e.rows wall)
  unfold attempt
  split
  all_goals
    next ended =>
    rw [ended] at same
    exact same

theorem Acquirer.step_standing {e e' : Engine} {a a' : Acquirer} {now : Nat} {wall : UInt64}
    (step : a.step now wall e = some (e', a')) : e'.store.standing = e.store.standing := by
  cases step_does step with
  | attempts _ _ attempt =>
    have same := attempt_standing now wall e a
    rw [attempt] at same
    exact same
  | givesUp | enters | retries | hears => rfl

theorem Worker.step_standing {e e' : Engine} {w w' : Worker} (step : w.Step e e' w') :
    e'.store.standing = e.store.standing := by
  cases step with
  | @activity _ a _ _ _ step =>
    cases a with
    | call c =>
      obtain ⟨_, went, ends⟩ := Option.map_eq_some_iff.mp step
      cases ends
      exact Call.step_standing went
    | acquire a =>
      obtain ⟨_, went, ends⟩ := Option.map_eq_some_iff.mp step
      cases ends
      exact Acquirer.step_standing went
  | enter _ opened | refused _ opened => exact Store.standing_begin opened
  | inside answered | outside answered => exact Store.standing_request answered
  | commit => exact (Engine.standing_conclude _ _).trans (Store.standing_commit _)
  | finish => exact Engine.standing_conclude _ _
  | cancel | start | rollback | drop => rfl

theorem Floor.step_standing {f g : Floor} (step : f.Step g) :
    g.engine.store.standing = f.engine.store.standing := by
  cases step with
  | join => rfl
  | work step => exact Worker.step_standing step

/-! ## 2. What someone who acquires does -/

/-- Of some contents an eligible task is handed out, and it runs in what is left. -/
def Contents.Starts (c : Contents) (task : Task) (d : Contents) : Prop :=
  ∃ queued now, c.tasks.get? queued.id = some queued ∧ queued.state = .queued ∧ c.HasRoom queued ∧
    task = { queued with started := some now, state := .running } ∧ d = c.put task

namespace Acquirer

/-- What someone who acquires can do. -/
inductive Act
  /-- Begins an attempt. -/
  | enters
  /-- Begins again, for the section of the attempt could not be opened. -/
  | retries
  /-- Makes an attempt on some contents, and leaves others. -/
  | attempts (before after : Contents)
  /-- Hears what ended the wait. -/
  | hears (event : ChangeEvent)

namespace Act

def isRetry : Act → Bool
  | .retries => true
  | _ => false

def isAttempt : Act → Bool
  | .attempts _ _ => true
  | _ => false

/-- Whether something else follows in a closed queue. -/
def goesOn : Act → Bool
  | .enters | .retries => true
  | .attempts _ _ => false
  | .hears event => event ≠ .closed

end Act

/-- One act of someone who acquires. A wait that can end in several ways ends in any of them. -/
inductive Acts (e : Engine) (a : Acquirer) : Act → Engine → Acquirer → Prop
  | enters {e' : Engine} {a' : Acquirer} {now : Nat} {wall : UInt64} :
      a.stage = .trying → a.step now wall e = some (e', a') → Acts e a .enters e' a'
  | retries {e' : Engine} {a' : Acquirer} {limit now : Nat} {wall : UInt64} :
      a.stage = .entering limit → e.store.free = false → a.step now wall e = some (e', a') →
      Acts e a .retries e' a'
  | attempts {e' : Engine} {a' : Acquirer} {limit now : Nat} {wall : UInt64} :
      a.stage = .entering limit → e.store.free = true → a.step now wall e = some (e', a') →
      Acts e a (.attempts e.store.committed e'.store.committed) e' a'
  | hears {event : ChangeEvent} {limit now : Nat} : a.stage = .waiting limit →
      event ∈ a.listener.endings e.store.changes (limit ≤ now) →
      Acts e a (.hears event) e (a.wake e event)

/-- How an act in a closed queue ends an acquire. -/
inductive Decides (settings : CursorSettings) : Act → Except Failure (Option Task) → Prop
  | closed : Decides settings (.hears .closed) (.error .closed)
  | starts {c d : Contents} {task : Task} : c.Offers settings → c.Starts task d →
      Decides settings (.attempts c d) (.ok (some task))
  | misses {c : Contents} : ¬ c.Offers settings →
      Decides settings (.attempts c c) (.error .closed)

/-- The number of acts that are left to someone who never has to begin again. -/
def actsLeft (a : Acquirer) : Nat :=
  match a.stage with
  | .waiting _ => 3
  | .trying => 2
  | .entering _ => 1
  | .finished _ => 0

/-- Someone who acquires without a deadline and is not told to give up. -/
def Persists (a : Acquirer) : Prop :=
  a.deadline = none ∧ a.cancelled = false

variable {e e' : Engine} {a a' : Acquirer} {act : Act}

/-- What an attempt in a closed queue comes to. -/
theorem attempt_decides (h : e.store.committed.WellFormed) (free : e.store.free = true)
    (closed : e.store.changes.closed = true) (persists : a.Persists) (now : Nat) (wall : UInt64) :
    ∃ result, (a.attempt now wall e).2 = a.finish result ∧ Decides e.store.settings.cursor
      (.attempts e.store.committed (a.attempt now wall e).1.store.committed) result := by
  have enough : e.store.committed.tasks.size ≤ e.rows := Nat.le_succ _
  have offers := Operation.acquire_none_iff h e.store.settings.cursor enough wall
  rcases attempt_cases h free a now wall with
    ⟨next, ⟨notices, number, rfl⟩, attempt, nothing⟩ |
    ⟨next, task, stored, queued, room, ⟨notices, number, rfl⟩, attempt, after, found⟩
  · rw [attempt]
    refine ⟨.error .closed, ?_, .misses (offers.mp nothing)⟩
    simp only [afterMiss, persists.1, closed, if_true]
  · rw [attempt]
    refine ⟨_, rfl, .starts ?_ ⟨task, wall, stored, queued, room, rfl, rfl⟩⟩
    by_contra nothing
    rw [offers.mpr nothing] at found
    cases found

/-- What an act in a closed queue comes to. -/
structure Turns (settings : CursorSettings) (a : Acquirer) (act : Act) (a' : Acquirer) : Prop where
  persists : a'.Persists
  ends : act.goesOn = true ∧ a'.result? = none ∨
    ∃ result, a'.result? = some result ∧ Decides settings act result
  waits : a'.isWaiting = false
  heard : ∀ event, act = .hears event → a.isWaiting = true
  left : a'.actsLeft + 1 ≤ a.actsLeft + if act.isRetry then 2 else 0

theorem acts_out (acts : a.Acts e act e' a') : e.store.StaysOut e'.store := by
  cases acts with
  | enters _ step | retries _ _ step | attempts _ _ step => exact step_staysOut step
  | hears => exact Store.staysOut_same rfl rfl

/-- Whoever is done does nothing more. -/
theorem acts_result (acts : a.Acts e act e' a') : a.result? = none := by
  unfold result?
  cases acts with
  | enters stage | retries stage | attempts stage | hears stage => rw [stage]

theorem acts_standing (acts : a.Acts e act e' a') : e'.store.standing = e.store.standing := by
  cases acts with
  | enters _ step | retries _ _ step | attempts _ _ step => exact step_standing step
  | hears => rfl

theorem acts_closed (h : e.store.committed.WellFormed) (closed : e.store.changes.closed = true)
    (persists : a.Persists) (acts : a.Acts e act e' a') :
    Turns e.store.settings.cursor a act a' := by
  cases acts with
  | enters stage step =>
    rw [Acquirer.step, stage] at step
    simp only [persists.2, Bool.false_eq_true, if_false] at step
    cases step
    refine ⟨⟨persists.1, rfl⟩, .inl ⟨rfl, rfl⟩, rfl, by rintro _ ⟨⟩, ?_⟩
    simp [actsLeft, stage, Act.isRetry]
  | retries stage taken step =>
    rw [Acquirer.step, stage] at step
    simp only [taken, Bool.false_eq_true, if_false] at step
    split at step
    · cases step
      refine ⟨persists, .inl ⟨rfl, rfl⟩, rfl, by rintro _ ⟨⟩, ?_⟩
      simp [actsLeft, stage, Act.isRetry]
    · cases step
  | @attempts _ _ _ now wall stage free step =>
    rw [Acquirer.step, stage] at step
    simp only [free, if_true] at step
    obtain ⟨result, finished, decides⟩ := attempt_decides h free closed persists now wall
    rw [Option.some.inj step] at finished decides
    obtain rfl : a' = a.finish result := finished
    refine ⟨persists, .inr ⟨result, rfl, decides⟩, rfl, by rintro _ ⟨⟩, ?_⟩
    simp [actsLeft, stage, Act.isRetry, finish]
  | @hears event _ _ stage =>
    have waited : a.isWaiting = true := by simp [isWaiting, stage]
    refine ⟨?_, ?_, wake_isWaiting event, fun _ _ => waited, ?_⟩
    · cases event <;> exact persists
    · cases event with
      | signalled | timedOut => exact .inl ⟨rfl, rfl⟩
      | closed => exact .inr ⟨_, rfl, .closed⟩
    · cases event <;> simp [actsLeft, stage, Act.isRetry, wake, finish]

/-! ## 3. Whole errands -/

/-- The errand of someone who acquires: their acts, one after the other, while others may be at work
on the floor. -/
inductive Errand (start : Floor) (first : Acquirer) : List Act → Floor → Acquirer → Prop
  | nil : Errand start first [] start first
  | others {h : List Act} {f g : Floor} {a : Acquirer} : Errand start first h f a → f.Step g →
      Errand start first h g a
  | acts {h : List Act} {e e' : Engine} {workers : List Worker} {a a' : Acquirer} {act : Act} :
      Errand start first h ⟨e, workers⟩ a → a.Acts e act e' a' →
      Errand start first (h ++ [act]) ⟨e', workers⟩ a'

namespace Errand

variable {start f : Floor} {first a : Acquirer} {h : List Act}

theorem sound (begins : start.Sound) (errand : Errand start first h f a) : f.Sound := by
  induction errand with
  | nil => exact begins
  | others _ step ih => exact (Floor.sound_step ih step).1
  | acts _ acts ih =>
    have out := acts_out acts
    refine ⟨(out.commits.follows ih.wellFormed).wellFormed, ih.alone, fun w member => ?_⟩
    exact (ih.fits w member).staysOut out

theorem standing (errand : Errand start first h f a) :
    f.engine.store.standing = start.engine.store.standing := by
  induction errand with
  | nil => rfl
  | others _ step ih => exact (Floor.step_standing step).trans ih
  | acts _ acts ih => exact (acts_standing acts).trans ih

/-- Where an errand in a closed queue stands: nothing decides it before its last act. -/
structure Stands (settings : CursorSettings) (first : Acquirer) (h : List Act) (a : Acquirer) :
    Prop where
  persists : a.Persists
  begins : h = [] → a = first
  ongoing : a.result? = none → ∀ act ∈ h, act.goesOn = true
  ended : ∀ result, a.result? = some result → ∃ earlier last, h = earlier ++ [last] ∧
    (∀ act ∈ earlier, act.goesOn = true) ∧ Decides settings last result
  waits : a.isWaiting = true → h = []
  heard : ∀ event, .hears event ∈ h → first.isWaiting = true ∧ h.head? = some (.hears event)
  left : h.length + a.actsLeft ≤ 3 + 2 * h.countP Act.isRetry

theorem stands_self (persists : first.Persists) (under : first.result? = none)
    (settings : CursorSettings) : Stands settings first [] first := by
  refine ⟨persists, fun _ => rfl, fun _ => List.forall_mem_nil _, ?_, fun _ => rfl, ?_, ?_⟩
  · intro result ended
    rw [under] at ended
    cases ended
  · intro event member
    cases member
  · have most : first.actsLeft ≤ 3 := by
      unfold actsLeft
      split <;> decide
    simpa using most

/-- One more act. -/
theorem Stands.snoc {settings : CursorSettings} {a a' : Acquirer} {act : Act}
    (stands : Stands settings first h a) (under : a.result? = none)
    (turns : Turns settings a act a') : Stands settings first (h ++ [act]) a' := by
  have earlier := stands.ongoing under
  refine ⟨turns.persists, by simp, ?_, ?_, ?_, ?_, ?_⟩
  · intro undecided
    rcases turns.ends with ⟨goesOn, -⟩ | ⟨result, ended, -⟩
    · exact List.forall_mem_append.mpr ⟨earlier, List.forall_mem_singleton.mpr goesOn⟩
    · rw [undecided] at ended
      cases ended
  · intro result ended
    rcases turns.ends with ⟨-, undecided⟩ | ⟨other, same, decides⟩
    · rw [undecided] at ended
      cases ended
    · obtain rfl : other = result := Option.some.inj (same.symm.trans ended)
      exact ⟨h, act, rfl, earlier, decides⟩
  · intro waits
    rw [turns.waits] at waits
    cases waits
  · intro event member
    rcases List.mem_append.mp member with before | now
    · obtain ⟨waited, head⟩ := stands.heard event before
      exact ⟨waited, by rw [List.head?_append, head]; rfl⟩
    · -- Whoever hears something waits, and nobody waits who has done anything before.
      obtain rfl := List.mem_singleton.mp now
      have waits := turns.heard event rfl
      obtain rfl := stands.waits waits
      rw [stands.begins rfl] at waits
      exact ⟨waits, rfl⟩
  · have left := stands.left
    have less := turns.left
    rw [List.length_append, List.length_singleton, List.countP_append, List.countP_singleton]
    split at less
    · next retry =>
      rw [if_pos retry]
      omega
    · next other =>
      rw [if_neg other]
      omega

theorem stands (begins : start.Sound)
    (closed : start.engine.store.changes.closed = true) (persists : first.Persists)
    (under : first.result? = none) (errand : Errand start first h f a) :
    Stands start.engine.store.settings.cursor first h a := by
  induction errand with
  | nil => exact stands_self persists under _
  | others _ _ ih => exact ih
  | @acts h e e' workers a a' act earlier acts ih =>
    have standing := earlier.standing
    have turns := acts_closed (earlier.sound begins).wellFormed
      ((congrArg Prod.snd standing).trans closed) ih.persists acts
    have same : e.store.settings = start.engine.store.settings := congrArg Prod.fst standing
    rw [same] at turns
    exact ih.snoc (acts_result acts) turns

/-- What decides an errand is one of its acts. -/
theorem Stands.decided {settings : CursorSettings} {result : Except Failure (Option Task)}
    (stands : Stands settings first h a) (ended : a.result? = some result) :
    ∃ act ∈ h, Decides settings act result := by
  obtain ⟨earlier, last, rfl, -, decides⟩ := stands.ended result ended
  exact ⟨last, List.mem_append_right _ List.mem_cons_self, decides⟩

/-- An act that nothing follows decides the errand. -/
theorem Stands.decides {settings : CursorSettings} {act : Act} (stands : Stands settings first h a)
    (member : act ∈ h) (last : act.goesOn = false) :
    ∃ result, a.result? = some result ∧ Decides settings act result := by
  cases ended : a.result? with
  | none =>
    rw [stands.ongoing ended act member] at last
    cases last
  | some result =>
    obtain ⟨earlier, final, rfl, before, decides⟩ := stands.ended result ended
    rcases List.mem_append.mp member with early | late
    · rw [before act early] at last
      cases last
    · obtain rfl := List.mem_singleton.mp late
      exact ⟨result, rfl, decides⟩

theorem Stands.once {settings : CursorSettings} (stands : Stands settings first h a) :
    h.countP Act.isAttempt ≤ 1 := by
  have none {acts : List Act} (goOn : ∀ act ∈ acts, act.goesOn = true) :
      acts.countP Act.isAttempt = 0 := by
    refine List.countP_eq_zero.mpr fun act member attempt => ?_
    have goesOn := goOn act member
    cases act with
    | attempts => cases goesOn
    | enters | retries | hears => cases attempt
  cases ended : a.result? with
  | none => exact Nat.le_trans (Nat.le_of_eq (none (stands.ongoing ended))) (Nat.zero_le 1)
  | some result =>
    obtain ⟨earlier, last, rfl, before, -⟩ := stands.ended result ended
    rw [List.countP_append, none before, Nat.zero_add]
    exact List.countP_le_length

/-- How an acquire ends in a closed queue. -/
structure AfterClose (settings : CursorSettings) (first : Acquirer) (h : List Act) (f : Floor)
    (a : Acquirer) : Prop where
  /-- There is one attempt at most. -/
  once : h.countP Act.isAttempt ≤ 1
  /-- A task is handed out if and only if an attempt finds an eligible one. -/
  handed : (∃ task, a.result? = some (.ok (some task))) ↔
    ∃ c d, .attempts c d ∈ h ∧ c.Offers settings
  /-- It was queued, and runs from then on. -/
  starts : ∀ task, a.result? = some (.ok (some task)) →
    ∃ c d, .attempts c d ∈ h ∧ c.Starts task d
  /-- The acquire fails if and only if it hears of the closing or an attempt finds nothing. -/
  fails : a.result? = some (.error .closed) ↔
    .hears .closed ∈ h ∨ ∃ c, .attempts c c ∈ h ∧ ¬ c.Offers settings
  /-- It ends in no other way. -/
  only : ∀ result, a.result? = some result →
    (∃ task, result = .ok (some task)) ∨ result = .error .closed
  /-- Only someone who waited when the queue was closed hears anything, and first of all. -/
  heard : ∀ event, .hears event ∈ h →
    first.isWaiting = true ∧ h.head? = some (.hears event)
  /-- Those who wait can hear at any moment that the queue is closed. -/
  hearing : a.isWaiting = true →
    a.Acts f.engine (.hears .closed) f.engine (a.finish (.error .closed))
  /-- Until it ends it need not wait for anything but an open section. -/
  goesOn : a.result? = none → f.engine.store.free = true → ∃ act e' a', a.Acts f.engine act e' a'
  /-- The end comes after three acts at most, unless an attempt has to begin again. -/
  brief : h.length ≤ 3 + 2 * h.countP Act.isRetry

theorem stage_of_isWaiting (waits : a.isWaiting = true) : ∃ limit, a.stage = .waiting limit := by
  unfold isWaiting at waits
  split at waits
  · next limit stage => exact ⟨limit, stage⟩
  · cases waits

theorem hears_closed {e : Engine} (closed : e.store.changes.closed = true)
    (waits : a.isWaiting = true) :
    a.Acts e (.hears .closed) e (a.finish (.error .closed)) := by
  obtain ⟨limit, stage⟩ := stage_of_isWaiting waits
  refine @Acts.hears e a .closed limit 0 stage ?_
  simp [Listener.endings, closed]

theorem hears_signalled {e : Engine} (behind : a.listener.behind e.store.changes = true)
    (waits : a.isWaiting = true) : a.Acts e (.hears .signalled) e (a.wake e .signalled) := by
  obtain ⟨limit, stage⟩ := stage_of_isWaiting waits
  refine @Acts.hears e a .signalled limit 0 stage ?_
  simp [Listener.endings, behind]

theorem enters_now {e : Engine} {now : Nat} {wall : UInt64} (stage : a.stage = .trying)
    (ready : (a.step now wall e).isSome = true) :
    a.Acts e .enters ((a.step now wall e).get ready).1 ((a.step now wall e).get ready).2 :=
  .enters stage (Option.some_get ready).symm

theorem attempts_now {e : Engine} {now limit : Nat} {wall : UInt64}
    (stage : a.stage = .entering limit) (free : e.store.free = true)
    (ready : (a.step now wall e).isSome = true) :
    a.Acts e (.attempts e.store.committed ((a.step now wall e).get ready).1.store.committed)
      ((a.step now wall e).get ready).1 ((a.step now wall e).get ready).2 :=
  .attempts stage free (Option.some_get ready).symm

theorem can_act {e : Engine} (closed : e.store.changes.closed = true) (free : e.store.free = true)
    (under : a.result? = none) : ∃ act e' a', a.Acts e act e' a' := by
  cases stage : a.stage with
  | trying =>
    have ready : (a.step 0 0 e).isSome = true := by
      simp only [Acquirer.step, stage]
      split <;> rfl
    exact ⟨_, _, _, enters_now stage ready⟩
  | entering limit =>
    have ready : (a.step 0 0 e).isSome = true := by
      simp only [Acquirer.step, stage, free, if_true, Option.isSome_some]
    exact ⟨_, _, _, attempts_now stage free ready⟩
  | waiting limit =>
    have waits : a.isWaiting = true := by simp [isWaiting, stage]
    exact ⟨_, _, _, hears_closed closed waits⟩
  | finished result =>
    unfold result? at under
    rw [stage] at under
    cases under

/-- After any run of any number of workers the queue is closed. Someone who is under way then, or
begins later, acquires without a deadline and is not told to give up, while the others do whatever
they do. They make one attempt at most, and are handed a task if and only if that attempt finds one.
They fail if it finds none, or if they hear of the closing instead. -/
theorem after_close {origin : Floor} {e : Engine} {workers others : List Worker}
    (formed : origin.committed.WellFormed) (idle : origin.workers = [])
    (run : Floor.Run (fun _ _ => True) origin ⟨e, workers⟩) (among : others.Sublist workers)
    (persists : first.Persists) (under : first.result? = none)
    (errand : Errand ⟨e.close, others⟩ first h f a) :
    AfterClose e.store.settings.cursor first h f a := by
  have sound := run.sound (Floor.sound_idle formed idle)
  have begins : Floor.Sound ⟨e.close, others⟩ :=
    ⟨sound.wellFormed, sound.alone.sublist among, fun w member =>
      (sound.fits w (among.subset member)).staysOut (Store.staysOut_same rfl rfl)⟩
  have stands := errand.stands begins rfl persists under
  have closed : f.engine.store.changes.closed = true := congrArg Prod.snd errand.standing
  refine ⟨stands.once, ⟨?_, ?_⟩, ?_, ⟨?_, ?_⟩, ?_, stands.heard, hears_closed closed,
    fun ongoing free => can_act closed free ongoing, ?_⟩
  · rintro ⟨task, ended⟩
    obtain ⟨act, member, decides⟩ := stands.decided ended
    cases decides with
    | starts offers _ => exact ⟨_, _, member, offers⟩
  · rintro ⟨c, d, member, offers⟩
    obtain ⟨result, ended, decides⟩ := stands.decides member rfl
    cases decides with
    | starts => exact ⟨_, ended⟩
    | misses nothing => exact absurd offers nothing
  · intro task ended
    obtain ⟨act, member, decides⟩ := stands.decided ended
    cases decides with
    | starts _ starts => exact ⟨_, _, member, starts⟩
  · intro ended
    obtain ⟨act, member, decides⟩ := stands.decided ended
    cases decides with
    | closed => exact .inl member
    | misses nothing => exact .inr ⟨_, member, nothing⟩
  · rintro (member | ⟨c, member, nothing⟩)
    · obtain ⟨result, ended, decides⟩ := stands.decides member rfl
      cases decides with
      | closed => exact ended
    · obtain ⟨result, ended, decides⟩ := stands.decides member rfl
      cases decides with
      | starts offers _ => exact absurd offers nothing
      | misses => exact ended
  · intro result ended
    obtain ⟨act, member, decides⟩ := stands.decided ended
    cases decides with
    | starts => exact .inl ⟨_, rfl⟩
    | closed | misses => exact .inr rfl
  · exact Nat.le_trans (Nat.le_add_right _ _) stands.left

/-- Someone waits for a task, the queue is closed, and only then a task is submitted. Whoever waits
hears of the task, and is handed it. -/
theorem after_close_woken :
    let origin : Floor := ⟨.new .inMemory .standard, []⟩
    ∃ e first h f a, origin.committed.WellFormed ∧ origin.workers = [] ∧
      Floor.Run (fun _ _ => True) origin ⟨e, [.activity (.acquire first)]⟩ ∧
      first.isWaiting = true ∧ first.Persists ∧ first.result? = none ∧
      Errand ⟨e.close, []⟩ first h f a ∧ AfterClose e.store.settings.cursor first h f a ∧
      (∃ task, a.result? = some (.ok (some task))) ∧
      (f.committed.tasks.get? (default : Task).id).map Task.state = some .running := by
  intro origin
  have formed : origin.committed.WellFormed := Contents.Reachable.empty.wellFormed
  obtain ⟨e, first, h, f, a, run, waits, persists, under, errand, good, runs⟩ :
      ∃ e first h f a, Floor.Run (fun _ _ => True) origin ⟨e, [.activity (.acquire first)]⟩ ∧
        first.isWaiting = true ∧ first.Persists ∧ first.result? = none ∧
        Errand ⟨e.close, []⟩ first h f a ∧ a.result?.any (·.isOk) = true ∧
        (f.committed.tasks.get? (default : Task).id).map Task.state = some .running := by
    have idle : Floor.Run (fun _ _ => True) origin origin := .nil
    have begins := idle.snoc (.join (@Worker.New.acquire _ none)) trivial
    have tries := begins.snoc (@Floor.Step.work _ _ [] [] _ _
      (@Worker.step_acquire _ _ 0 0 rfl)) trivial
    let entered := ((begin origin.engine none).step 0 0 origin.engine).get rfl
    let missed := (entered.2.step 0 0 entered.1).get (by decide +kernel)
    have waits : Floor.Run _ origin ⟨missed.1, [.activity (.acquire missed.2)]⟩ :=
      tries.snoc (@Floor.Step.work _ _ [] [] _ _ (Worker.step_acquire (by decide +kernel))) trivial
    have closes : Errand ⟨missed.1.close, []⟩ missed.2 [] ⟨missed.1.close, []⟩ missed.2 := .nil
    have joined := closes.others (.join (@Worker.New.call _ (.submitAll [default]) .standard 0))
    have submitted := joined.others (Floor.step_activity 0 0 (by decide +kernel))
    have hears := submitted.acts (hears_signalled (by decide +kernel) (by decide +kernel))
    have enters := hears.acts (@enters_now _ _ 0 0 rfl rfl)
    have attempts := enters.acts (@attempts_now _ _ 0 _ 0 rfl (by decide +kernel)
      (by decide +kernel))
    exact ⟨_, _, _, _, _, waits, by decide +kernel, ⟨rfl, rfl⟩, by decide +kernel, attempts,
      by decide +kernel, by decide +kernel⟩
  have closing : AfterClose e.store.settings.cursor first h f a :=
    after_close formed rfl run (List.nil_sublist _) persists under errand
  obtain ⟨result, ended, good⟩ := (Option.any_eq_true _ _).mp good
  rcases closing.only result ended with ⟨task, rfl⟩ | rfl
  · exact ⟨e, first, h, f, a, formed, rfl, run, waits, persists, under, errand, closing,
      ⟨task, ended⟩, runs⟩
  · cases good

end Errand

end Acquirer

end TaskQueue
