import TaskQueue.Proofs.Engine.Closing

/-!
# Acquiring, request by request

An attempt to take a task has a section of its own and goes from request to request in it. Meanwhile
time passes, others are at work, the queue may be closed, and whoever acquires may be told to give
up. Any request may fail, and the section is given up then. An attempt that fails because something
was locked for too long is made again.

Results:
1. `Worker.step_locked`: while a section is open, those outside it commit nothing.
2. `Seeker.seated_others`, `Seeker.seated_moves`: the attempt of someone who acquires is one of the
   workers on a floor, and what it has found stays as it is until it ends.
3. `Seeker.Quest.step`: a step of an acquirer is part of a quest.
-/

namespace TaskQueue

namespace Acquirer

/-- What someone who acquires does. -/
inductive Doing
  /-- Begins an attempt. -/
  | begins
  /-- Waits no longer for the section of the attempt. -/
  | refused
  /-- Is done with an attempt that had its section. -/
  | attempts (result : Except Failure (Option Task))
  /-- Hears what ended the wait. -/
  | hears (event : ChangeEvent)
  /-- Leaves, having been told to. -/
  | leaves

/-- Something that someone who acquires did, with the contents before and after. Those of an attempt
are the ones that its section found and left. -/
structure Deed where
  time : Nat
  doing : Doing
  before : Contents
  after : Contents

/-- An attempt in its section: what is left of it, and what was committed when it began. -/
structure Attempt where
  id : SectionId
  op : Operation Order.Answer
  rest : Program (Except Failure (Order.Answer × Aftermath))
  found : Contents

/-- What follows an attempt. -/
def answered (now : Nat) (e : Engine) (a : Acquirer) : Except Failure (Option Task) → Acquirer
  | .ok (some task) => a.finish (.ok (some task))
  | .ok none => a.afterMiss now e
  | .error (.lockTimeout _) => { a with stage := .trying }
  | .error failure => a.finish (.error failure)

end Acquirer

/-- Someone who acquires, and the attempt that they are in the section of. -/
structure Seeker where
  acquirer : Acquirer
  attempt : Option Acquirer.Attempt

namespace Seeker

open Acquirer (Deed)

/-- The operation of an attempt. -/
def selection (e : Engine) (wall : UInt64) : Operation Order.Answer :=
  (Order.acquire wall).operation e.store.settings.cursor e.rows

/-- A move, with the deed that is done by it if one is. -/
inductive Moves (now : Nat) (e : Engine) : Seeker → List Deed → Engine → Seeker → Prop
  | begins {a : Acquirer} : a.stage = .trying → a.cancelled = false →
      Moves now e ⟨a, none⟩ [⟨now, .begins, e.store.committed, e.store.committed⟩] e
        ⟨{ a with stage := .entering (now + e.store.settings.lockTimeout.toNat) }, none⟩
  | refused {a : Acquirer} {limit : Nat} : a.stage = .entering limit → e.store.free = false →
      limit ≤ now →
      Moves now e ⟨a, none⟩ [⟨now, .refused, e.store.committed, e.store.committed⟩] e
        ⟨{ a with stage := .trying }, none⟩
  /-- The section of the attempt is opened. -/
  | opens {a : Acquirer} {limit : Nat} {wall : UInt64} {id : SectionId} {s : Store} :
      a.stage = .entering limit → e.store.begin = (.ok id, s) →
      Moves now e ⟨a, none⟩ [] { e with store := s }
        ⟨a, some ⟨id, selection e wall, (selection e wall).body.run, e.store.committed⟩⟩
  /-- The next request of the attempt is made. -/
  | asks {a : Acquirer} {id : SectionId} {op : Operation Order.Answer} {q : Request}
      {next : Except Failure q.Reply → Program (Except Failure (Order.Answer × Aftermath))}
      {found : Contents} {reply : Except Failure q.Reply} {s : Store} :
      e.store.request (some id) q = (reply, s) →
      Moves now e ⟨a, some ⟨id, op, .ask q next, found⟩⟩ [] { e with store := s }
        ⟨a, some ⟨id, op, next reply, found⟩⟩
  | commits {a : Acquirer} {id : SectionId} {op : Operation Order.Answer} {choice : Option Task}
      {after : Aftermath} {found : Contents} {e' : Engine} :
      { e with store := e.store.commit }.conclude after = e' →
      Moves now e ⟨a, some ⟨id, op, .done (.ok (.task choice, after)), found⟩⟩
        [⟨now, .attempts (.ok choice), found, e'.store.committed⟩] e'
        ⟨a.answered now e' (.ok choice), none⟩
  /-- A request of the attempt fails, and the section is given up. -/
  | fails {a : Acquirer} {attempt : Acquirer.Attempt} {failure : Failure} :
      Moves now e ⟨a, some attempt⟩
        [⟨now, .attempts (.error failure), attempt.found, e.store.rollback.committed⟩]
        { e with store := e.store.rollback } ⟨a.answered now e (.error failure), none⟩
  /-- A wait that can end in several ways ends in any of them. -/
  | hears {a : Acquirer} {limit : Nat} {event : ChangeEvent} : a.stage = .waiting limit →
      event ∈ a.listener.endings e.store.changes (limit ≤ now) →
      Moves now e ⟨a, none⟩ [⟨now, .hears event, e.store.committed, e.store.committed⟩] e
        ⟨a.wake e event, none⟩
  | leaves {a : Acquirer} : a.stage = .trying ∨ a.isWaiting = true → a.cancelled = true →
      Moves now e ⟨a, none⟩ [⟨now, .leaves, e.store.committed, e.store.committed⟩] e
        ⟨a.finish (.ok none), none⟩

/-- What someone who acquires does from some moment on, while others may be at work on the floor,
and what there is to see at another moment. -/
inductive Quest (origin : Floor) (first : Acquirer) (start : Nat) :
    List Deed → Nat → Floor → Seeker → Prop
  | nil : Quest origin first start [] start origin ⟨first, none⟩
  | passes {h : List Deed} {now later : Nat} {f : Floor} {s : Seeker} :
      Quest origin first start h now f s → now ≤ later → Quest origin first start h later f s
  | others {h : List Deed} {now : Nat} {f g : Floor} {s : Seeker} :
      Quest origin first start h now f s → f.Step g → Quest origin first start h now g s
  /-- The queue is closed. -/
  | closes {h : List Deed} {now : Nat} {f : Floor} {s : Seeker} :
      Quest origin first start h now f s →
      Quest origin first start h now ⟨f.engine.close, f.workers⟩ s
  /-- Whoever acquires is told to give up. -/
  | cancels {h : List Deed} {now : Nat} {f : Floor} {s : Seeker} :
      Quest origin first start h now f s →
      Quest origin first start h now f ⟨s.acquirer.cancel, s.attempt⟩
  | moves {h deeds : List Deed} {now : Nat} {e e' : Engine} {workers : List Worker}
      {s s' : Seeker} : Quest origin first start h now ⟨e, workers⟩ s →
      s.Moves now e deeds e' s' → Quest origin first start (h ++ deeds) now ⟨e', workers⟩ s'

end Seeker

/-! ## 1. While a section is open -/

/-- An operation with another form of its answer does the same to the store. -/
theorem Store.isolated_map {α β : Type} (f : α → β) (op : Operation α) (s : Store) :
    s.isolated (op.map f).body =
      ((s.isolated op.body).1.map fun r => (f r.1, r.2), (s.isolated op.body).2) := by
  cases free : s.free with
  | false => simp [isolated, free, Except.map]
  | true =>
    rw [isolated_eq free, isolated_eq free, Operation.map_exec]
    cases (op.body.run.exec s.committed).1 <;> rfl

/-- An isolated action that succeeds has run in a section that was committed. -/
theorem Store.run_of_isolated {α : Type} {action : Action α} {s s' : Store} {r : α}
    (free : s.free = true) (done : s.isolated action = (.ok r, s')) :
    (s.opening.2.run (some s.nextSection) action.run).1 = .ok r ∧
      (s.opening.2.run (some s.nextSection) action.run).2.commit = s' := by
  rw [isolated, if_pos free] at done
  have result : (s.opening.2.run (some s.nextSection) action.run).1 = .ok r :=
    congrArg Prod.fst done
  have left : (if (s.opening.2.run (some s.nextSection) action.run).1.isOk then
      (s.opening.2.run (some s.nextSection) action.run).2.commit
    else (s.opening.2.run (some s.nextSection) action.run).2.rollback) = s' :=
    congrArg Prod.snd done
  rw [result] at left
  exact ⟨result, left⟩

/-- Those outside the section that is open commit nothing. -/
theorem Worker.step_locked {e e' : Engine} {w w' : Worker} (fits : w.Fits e.store)
    (outside : w.isInside = false) (taken : e.store.free = false) (step : w.Step e e' w') :
    e'.store.committed = e.store.committed := by
  cases step with
  | @activity _ a _ _ _ step =>
    cases a with
    | call c =>
      obtain ⟨_, went, ends⟩ := Option.map_eq_some_iff.mp step
      cases ends
      exact (Call.step_fits fits went).1.taken taken
    | acquire a =>
      obtain ⟨_, went, ends⟩ := Option.map_eq_some_iff.mp step
      cases ends
      exact (Acquirer.step_staysOut went).taken taken
  | enter _ opened =>
    rw [Store.begin, if_neg (by simp [taken])] at opened
    cases opened
  | refused _ refused =>
    rw [Store.begin, if_neg (by simp [taken])] at refused
    cases refused
    rfl
  | cancel | start => rfl
  | inside | commit | rollback | drop => cases outside
  | outside answered =>
    obtain ⟨order, ⟨alone, asks⟩ | ⟨result, ends⟩⟩ := fits
    · exact (Store.staysOut_request order alone asks.symm answered).taken taken
    · cases ends
  | finish => exact Order.conclude_committed _ _

namespace Floor

variable {e : Engine} {workers : List Worker} {v w : Worker}

/-- Someone who is in no section may be there as well. -/
theorem sound_beside (sound : Sound ⟨e, workers⟩) (fits : w.Fits e.store)
    (outside : w.isInside = false) : Sound ⟨e, w :: workers⟩ := by
  refine ⟨sound.wellFormed, List.pairwise_cons.mpr ⟨fun v _ inside => ?_, sound.alone⟩,
    List.forall_mem_cons.mpr ⟨fits, sound.fits⟩⟩
  rw [outside] at inside
  cases inside

theorem sound_tail (sound : Sound ⟨e, w :: workers⟩) : Sound ⟨e, workers⟩ :=
  ⟨sound.wellFormed, (List.pairwise_cons.mp sound.alone).2,
    (List.forall_mem_cons.mp sound.fits).2⟩

theorem sound_swap (sound : Sound ⟨e, v :: w :: workers⟩) : Sound ⟨e, w :: v :: workers⟩ := by
  obtain ⟨wellFormed, alone, fits⟩ := sound
  obtain ⟨beside, alone⟩ := List.pairwise_cons.mp alone
  obtain ⟨others, alone⟩ := List.pairwise_cons.mp alone
  obtain ⟨first, fits⟩ := List.forall_mem_cons.mp fits
  obtain ⟨second, fits⟩ := List.forall_mem_cons.mp fits
  refine ⟨wellFormed, List.pairwise_cons.mpr ⟨List.forall_mem_cons.mpr ⟨fun inside => ?_, others⟩,
    List.pairwise_cons.mpr ⟨fun u member => beside u (List.mem_cons_of_mem w member), alone⟩⟩,
    List.forall_mem_cons.mpr ⟨second, List.forall_mem_cons.mpr ⟨first, fits⟩⟩⟩
  cases both : v.isInside with
  | false => rfl
  | true =>
    rw [beside w List.mem_cons_self both] at inside
    cases inside

/-- What happens outside sections leaves the floor sound. -/
theorem sound_staysOut {e' : Engine} (sound : Sound ⟨e, workers⟩)
    (out : e.store.StaysOut e'.store) : Sound ⟨e', workers⟩ :=
  ⟨(out.commits.follows sound.wellFormed).wellFormed, sound.alone,
    fun w member => (sound.fits w member).staysOut out⟩

/-- A step on a floor, with one more worker there who does nothing. -/
theorem sound_others {f g : Floor} (sound : Sound ⟨f.engine, w :: f.workers⟩) (step : f.Step g) :
    Sound ⟨g.engine, w :: g.workers⟩ ∧
      (w.isInside = true → g.committed = f.committed) := by
  cases step with
  | join new =>
    refine ⟨sound_swap (sound_join sound new), fun _ => rfl⟩
  | @work e e' before after v v' step =>
    have member : v ∈ w :: (before ++ v :: after) :=
      List.mem_cons_of_mem w (List.mem_append_right before List.mem_cons_self)
    have fits := sound.fits v member
    refine ⟨@sound_advance e e' (w :: before) after v v' sound (Worker.step_advance fits step),
      fun inside => ?_⟩
    have outside := (List.pairwise_cons.mp sound.alone).1 v
      (List.mem_append_right before List.mem_cons_self) inside
    exact Worker.step_locked fits outside
      ((sound.fits w List.mem_cons_self).taken inside) step

end Floor

/-! ## 2. Attempts are workers -/

namespace Seeker

open Acquirer (Deed)

variable {f g : Floor} {s s' : Seeker} {e e' : Engine} {workers : List Worker} {now : Nat}
  {deeds h : List Deed}

/-- The attempt of someone who acquires, as a worker on the floor. -/
def worker (s : Seeker) : Worker :=
  match s.attempt with
  | some attempt => .inside attempt.id attempt.op attempt.rest
  | none => .gone

/-- Someone who acquires on a sound floor. Since the section of an attempt was opened, what is
committed stayed as it was. -/
structure Seated (f : Floor) (s : Seeker) : Prop where
  sound : Floor.Sound ⟨f.engine, s.worker :: f.workers⟩
  during : ∀ attempt, s.attempt = some attempt → attempt.found = f.committed ∧
    (∃ wall settings bound, attempt.op = (Order.acquire wall).operation settings bound) ∧
    ∃ limit, s.acquirer.stage = .entering limit

theorem seated_start (sound : f.Sound) (a : Acquirer) : Seated f ⟨a, none⟩ :=
  ⟨Floor.sound_beside sound trivial rfl, nofun⟩

theorem seated_others (seated : Seated f s) (step : f.Step g) : Seated g s := by
  obtain ⟨sound, locked⟩ := Floor.sound_others seated.sound step
  refine ⟨sound, fun attempt under => ?_⟩
  obtain ⟨found, rest⟩ := seated.during attempt under
  refine ⟨?_, rest⟩
  rw [locked (by rw [worker, under]; rfl)]
  exact found

theorem seated_closes (seated : Seated f s) : Seated ⟨f.engine.close, f.workers⟩ s :=
  ⟨Floor.sound_staysOut seated.sound (Store.staysOut_same rfl rfl), seated.during⟩

theorem seated_cancels (seated : Seated f s) : Seated f ⟨s.acquirer.cancel, s.attempt⟩ :=
  ⟨seated.sound, seated.during⟩

theorem seated_moves (seated : Seated ⟨e, workers⟩ s) (moves : s.Moves now e deeds e' s') :
    Seated ⟨e', workers⟩ s' := by
  have sound := Floor.sound_tail seated.sound
  cases moves with
  | begins | refused | hears | leaves => exact seated_start sound _
  | @opens _ limit wall id s stage opened =>
    have order : (selection e wall).IsOrder := Operation.isOrder_operation _ _ _
    have arriving := Floor.sound_beside (w := .arriving (selection e wall)) sound order rfl
    refine ⟨@Floor.sound_advance _ _ [] _ _ _ arriving (Worker.advance_enter order opened), ?_⟩
    rintro attempt ⟨⟩
    rw [Store.begin] at opened
    split at opened
    · cases opened
      exact ⟨rfl, ⟨wall, _, _, rfl⟩, limit, stage⟩
    · cases opened
  | @asks _ id op q next found _ _ answered =>
    have fits := seated.sound.fits _ List.mem_cons_self
    have advance := Worker.advance_inside fits answered
    refine ⟨@Floor.sound_advance _ _ [] _ _ _ seated.sound advance, ?_⟩
    rintro attempt ⟨⟩
    obtain ⟨copy, request, -⟩ := Store.request_inside fits.2.1 q
    rw [request] at answered
    cases answered
    exact seated.during ⟨id, op, .ask q next, found⟩ rfl
  | commits ends =>
    have fits := seated.sound.fits _ List.mem_cons_self
    subst ends
    refine seated_start (Floor.sound_tail (w := .gone) ?_) _
    exact @Floor.sound_advance _ _ [] _ _ _ seated.sound (Worker.advance_commit fits)
  | fails =>
    refine seated_start (Floor.sound_tail (w := .gone) ?_) _
    exact @Floor.sound_advance _ _ [] _ _ _ seated.sound (Worker.advance_leave rfl (.inl rfl))

namespace Quest

variable {origin : Floor} {first a : Acquirer} {start : Nat}

theorem seated (begins : origin.Sound) (quest : Quest origin first start h now f s) :
    Seated f s := by
  induction quest with
  | nil => exact seated_start begins first
  | passes _ _ ih => exact ih
  | others _ step ih => exact seated_others ih step
  | closes _ ih => exact seated_closes ih
  | cancels _ ih => exact seated_cancels ih
  | moves _ moves ih => exact seated_moves ih moves

/-! ## 3. Steps of acquirers -/

/-- The requests of an attempt, one after the other. -/
theorem asks {id : SectionId} {op : Operation Order.Answer}
    {rest : Program (Except Failure (Order.Answer × Aftermath))} {found : Contents}
    (quest : Quest origin first start h now ⟨e, workers⟩ ⟨a, some ⟨id, op, rest, found⟩⟩) :
    Quest origin first start h now ⟨{ e with store := (e.store.run (some id) rest).2 }, workers⟩
      ⟨a, some ⟨id, op, .done (e.store.run (some id) rest).1, found⟩⟩ := by
  induction rest generalizing e with
  | done result => exact quest
  | ask q next ih =>
    have asked := quest.moves (.asks (Prod.eta (e.store.request (some id) q)).symm)
    rw [List.append_nil] at asked
    exact ih _ asked

/-- The rest of an attempt whose requests are all answered. -/
theorem answers {id : SectionId} {op : Operation Order.Answer}
    {rest : Program (Except Failure (Order.Answer × Aftermath))} {found : Contents}
    {choice : Option Task} {after : Aftermath} {e' : Engine}
    (quest : Quest origin first start h now ⟨e, workers⟩ ⟨a, some ⟨id, op, rest, found⟩⟩)
    (answered : (e.store.run (some id) rest).1 = .ok (.task choice, after))
    (ends : { e with store := (e.store.run (some id) rest).2.commit }.conclude after = e') :
    Quest origin first start (h ++ [⟨now, .attempts (.ok choice), found, e'.store.committed⟩]) now
      ⟨e', workers⟩ ⟨a.answered now e' (.ok choice), none⟩ := by
  have asked := quest.asks
  rw [answered] at asked
  exact asked.moves (.commits ends)

/-- An attempt that finds no section open, and has its own for itself. -/
theorem attempt {limit : Nat} {wall : UInt64} {e' : Engine} {a' : Acquirer}
    (quest : Quest origin first start h now ⟨e, workers⟩ ⟨a, none⟩)
    (formed : e.store.committed.WellFormed) (stage : a.stage = .entering limit)
    (free : e.store.free = true) (attempt : a.attempt now wall e = (e', a')) :
    ∃ deeds, Quest origin first start (h ++ deeds) now ⟨e', workers⟩ ⟨a', none⟩ := by
  obtain ⟨choice, after, answered⟩ : ∃ choice after, (e.store.isolated
      (Operation.acquire e.store.settings.cursor e.rows wall).body).1 = .ok (choice, after) := by
    rw [Store.isolated_eq free]
    rcases Operation.acquire_exec formed e.store.settings.cursor e.rows wall with
      result | ⟨task, -, -, -, result⟩
    all_goals
      rw [result]
      exact ⟨_, _, rfl⟩
  -- The attempt answers in the form of an order, and leaves the same store.
  have mapped : e.store.isolated (selection e wall).body = _ :=
    Store.isolated_map Order.Answer.task
      (Operation.acquire e.store.settings.cursor e.rows wall) e.store
  rw [answered] at mapped
  obtain ⟨result, left⟩ := Store.run_of_isolated free mapped
  have opened : e.store.begin = (.ok e.store.nextSection, e.store.opening.2) := by
    rw [Store.begin, if_pos free]
    rfl
  have begun := quest.moves (@Moves.opens now e a limit wall _ _ stage opened)
  have made := begun.answers result rfl
  rw [List.append_assoc] at made
  simp only [left] at made
  rw [Acquirer.attempt, Engine.perform, Engine.commit_isolated rfl, answered] at attempt
  cases choice with
  | none | some task =>
    cases attempt
    exact ⟨_, made⟩

/-- A step of someone who acquires. -/
theorem step {wall : UInt64} {e' : Engine} {a' : Acquirer}
    (quest : Quest origin first start h now ⟨e, workers⟩ ⟨a, none⟩)
    (formed : e.store.committed.WellFormed) (step : a.step now wall e = some (e', a')) :
    ∃ deeds, Quest origin first start (h ++ deeds) now ⟨e', workers⟩ ⟨a', none⟩ := by
  rw [Acquirer.step] at step
  cases stage : a.stage with
  | trying =>
    rw [stage] at step
    simp only at step
    split at step
    · next cancelled =>
      cases step
      exact ⟨_, quest.moves (.leaves (.inl stage) cancelled)⟩
    · next going =>
      cases step
      exact ⟨_, quest.moves (.begins stage (eq_false_of_ne_true going))⟩
  | entering limit =>
    rw [stage] at step
    simp only at step
    split at step
    · next free => exact quest.attempt formed stage free (Option.some.inj step)
    split at step
    · next taken late =>
      cases step
      exact ⟨_, quest.moves (.refused stage (eq_false_of_ne_true taken) late)⟩
    · cases step
  | waiting limit =>
    rw [stage] at step
    simp only at step
    split at step
    · next cancelled =>
      cases step
      exact ⟨_, quest.moves (.leaves (.inr (by simp [Acquirer.isWaiting, stage])) cancelled)⟩
    · next going =>
      obtain ⟨event, resumes, ends⟩ := Option.map_eq_some_iff.mp step
      cases ends
      exact ⟨_, quest.moves (.hears stage (List.mem_of_mem_head? resumes))⟩
  | finished result =>
    rw [stage] at step
    cases step

end Quest

end Seeker

end TaskQueue
