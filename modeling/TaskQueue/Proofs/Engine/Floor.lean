import TaskQueue.Proofs.Engine.Calls

/-!
# Many workers in one engine

A floor is an engine with any number of workers on it. Some carry out an order or acquire a task as
an `Activity`, step by step between waits; others carry out an order request by request, in a
section of their own or outside, and may be dropped at any point. The steps of all of them
interleave in any order, at any time.

Results:
1. `Worker.step_advance`: after a step each worker still has before it what its order does.
2. `sound_step`: a step on a floor commits one order at most, whatever the others are in the middle
   of.
-/

namespace TaskQueue

/-- Someone at work on a floor. -/
inductive Worker
  /-- Someone who carries out an operation or acquires, from one wait to the next. -/
  | activity (activity : Activity Order.Answer)
  /-- Someone who is about to carry out an operation request by request. -/
  | arriving (op : Operation Order.Answer)
  /-- Someone in a section, with the rest of the operation. -/
  | inside (id : SectionId) (op : Operation Order.Answer)
    (rest : Program (Except Failure (Order.Answer × Aftermath)))
  /-- Someone outside sections, with the rest of the operation. -/
  | outside (op : Operation Order.Answer)
    (rest : Program (Except Failure (Order.Answer × Aftermath)))
  | gone

namespace Worker

/-- Someone who has not begun yet. -/
inductive New (e : Engine) : Worker → Prop
  | call {order : Order} {settings : CursorSettings} {bound : Nat} :
      New e (.activity (.call (.starting (order.operation settings bound))))
  | acquire {deadline : Option Nat} : New e (.activity (.acquire (.begin e deadline)))
  | arriving {order : Order} {settings : CursorSettings} {bound : Nat} :
      New e (.arriving (order.operation settings bound))

/-- One step of a worker. -/
inductive Step : Engine → Worker → Engine → Worker → Prop
  | activity {e e' : Engine} {a a' : Activity Order.Answer} {wall : UInt64} {now : Nat} :
      a.step wall now e = some (e', a') → Step e (.activity a) e' (.activity a')
  /-- Someone who acquires is told to give up. -/
  | cancel {e : Engine} {a : Acquirer} :
      Step e (.activity (.acquire a)) e (.activity (.acquire a.cancel))
  | enter {e : Engine} {op : Operation Order.Answer} {id : SectionId} {s : Store} :
      op.isolated = true → e.store.begin = (.ok id, s) →
      Step e (.arriving op) { e with store := s } (.inside id op op.body.run)
  | refused {e : Engine} {op : Operation Order.Answer} {failure : Failure} {s : Store} :
      op.isolated = true → e.store.begin = (.error failure, s) →
      Step e (.arriving op) { e with store := s } .gone
  | start {e : Engine} {op : Operation Order.Answer} : op.isolated = false →
      Step e (.arriving op) e (.outside op op.body.run)
  | inside {e : Engine} {id : SectionId} {op : Operation Order.Answer} {q : Request}
      {next : Except Failure q.Reply → Program (Except Failure (Order.Answer × Aftermath))}
      {reply : Except Failure q.Reply} {s : Store} :
      e.store.request (some id) q = (reply, s) →
      Step e (.inside id op (.ask q next)) { e with store := s } (.inside id op (next reply))
  | commit {e : Engine} {id : SectionId} {op : Operation Order.Answer} {answer : Order.Answer}
      {after : Aftermath} :
      Step e (.inside id op (.done (.ok (answer, after))))
        ({ e with store := e.store.commit }.conclude after) .gone
  | rollback {e : Engine} {id : SectionId} {op : Operation Order.Answer} {failure : Failure} :
      Step e (.inside id op (.done (.error failure))) { e with store := e.store.rollback } .gone
  /-- Someone in a section is dropped, and the section with them. -/
  | drop {e : Engine} {id : SectionId} {op : Operation Order.Answer}
      {rest : Program (Except Failure (Order.Answer × Aftermath))} :
      Step e (.inside id op rest) { e with store := e.store.rollback } .gone
  | outside {e : Engine} {op : Operation Order.Answer} {q : Request}
      {next : Except Failure q.Reply → Program (Except Failure (Order.Answer × Aftermath))}
      {reply : Except Failure q.Reply} {s : Store} :
      e.store.request none q = (reply, s) →
      Step e (.outside op (.ask q next)) { e with store := s } (.outside op (next reply))
  | finish {e : Engine} {op : Operation Order.Answer} {answer : Order.Answer} {after : Aftermath} :
      Step e (.outside op (.done (.ok (answer, after)))) (e.conclude after) .gone

end Worker

/-- An engine and all who are at work in it. -/
structure Floor where
  engine : Engine
  workers : List Worker

namespace Floor

/-- What everyone sees. -/
def committed (f : Floor) : Contents :=
  f.engine.store.committed

/-- Someone joins, or one of the workers takes a step. -/
inductive Step : Floor → Floor → Prop
  | join {e : Engine} {workers : List Worker} {w : Worker} : w.New e →
      Step ⟨e, workers⟩ ⟨e, w :: workers⟩
  | work {e e' : Engine} {before after : List Worker} {w w' : Worker} : w.Step e e' w' →
      Step ⟨e, before ++ w :: after⟩ ⟨e', before ++ w' :: after⟩

/-- Any number of steps that the committed contents before and after allow. -/
inductive Run (allowed : Contents → Contents → Prop) (start : Floor) : Floor → Prop
  | nil : Run allowed start start
  | snoc {f g : Floor} : Run allowed start f → Step f g → allowed f.committed g.committed →
      Run allowed start g

end Floor

/-! ## 1. What workers have before them -/

namespace Worker

/-- Whether someone is in a section. -/
def isInside : Worker → Bool
  | .inside _ _ _ => true
  | _ => false

/-- What a worker has before it is what its order does. In a section, the rest of the operation on
what the section sees comes to what the whole operation does to the committed contents. -/
def Fits (s : Store) : Worker → Prop
  | .activity (.call c) => c.Fits
  | .activity (.acquire _) => True
  | .arriving op => op.IsOrder
  | .inside id op rest =>
    op.IsOrder ∧ s.openId = some id ∧ rest.exec (s.seen (some id)) = op.body.run.exec s.committed
  | .outside op rest =>
    op.IsOrder ∧ (op.isolated = false ∧ rest = op.body.run ∨ ∃ result, rest = .done result)
  | .gone => True

theorem New.fits {e : Engine} {w : Worker} (new : w.New e) :
    w.Fits e.store ∧ w.isInside = false := by
  cases new with
  | call => exact ⟨Operation.isOrder_operation _ _ _, rfl⟩
  | acquire => exact ⟨trivial, rfl⟩
  | arriving => exact ⟨Operation.isOrder_operation _ _ _, rfl⟩

/-- Those outside sections do not depend on the store. -/
theorem Fits.of_not_inside {s s' : Store} {w : Worker} (fits : w.Fits s)
    (outside : w.isInside = false) : w.Fits s' := by
  match w with
  | .activity (.call _) | .activity (.acquire _) | .arriving _ | .outside _ _ | .gone => exact fits
  | .inside _ _ _ => cases outside

/-- While someone is in a section, no section can be opened. -/
theorem Fits.taken {s : Store} {w : Worker} (fits : w.Fits s) (inside : w.isInside = true) :
    s.free = false := by
  match w with
  | .inside id op rest =>
    rw [← Bool.not_eq_true, Store.free_iff, fits.2.1]
    exact nofun
  | .activity _ | .arriving _ | .outside _ _ | .gone => cases inside

/-- Those in a section do not notice what happens outside. -/
theorem Fits.staysOut {s s' : Store} {w : Worker} (fits : w.Fits s) (out : s.StaysOut s') :
    w.Fits s' := by
  cases inside : w.isInside with
  | false => exact fits.of_not_inside inside
  | true =>
    have committed := out.taken (fits.taken inside)
    match w with
    | .inside id op rest =>
      obtain ⟨order, opened, ahead⟩ := fits
      have seen : s'.seen (some id) = s.seen (some id) := by
        simp only [Store.seen, Store.copyOf, out.opened, committed]
      refine ⟨order, ?_, ?_⟩
      · rw [Store.openId, out.opened]
        exact opened
      · rw [seen, committed]
        exact ahead
    | .activity _ | .arriving _ | .outside _ _ | .gone => cases inside

/-- What one step of a worker comes to, for itself and for the others. -/
structure Advance (e : Engine) (w : Worker) (e' : Engine) (w' : Worker) : Prop where
  commits : e.store.CommitsOne e'.store
  fits : w'.Fits e'.store
  others : ∀ v : Worker, v.Fits e.store → (w.isInside = true → v.isInside = false) →
    v.Fits e'.store
  enters : w'.isInside = true → w.isInside = true ∨ e.store.free = true

theorem advance_out {e e' : Engine} {w w' : Worker} (out : e.store.StaysOut e'.store)
    (fits : w'.Fits e'.store) (outside : w'.isInside = false) : Advance e w e' w' where
  commits := out.commits
  fits := fits
  others _ known _ := known.staysOut out
  enters inside := by rw [outside] at inside; cases inside

/-- Someone leaves a section, which is closed. -/
theorem advance_leave {e e' : Engine} {w : Worker} (inside : w.isInside = true)
    (commits : e.store.CommitsOne e'.store) : Advance e w e' .gone where
  commits := commits
  fits := trivial
  others _ known alone := known.of_not_inside (alone inside)
  enters gone := nomatch gone

/-- Someone opens a section. -/
theorem advance_enter {e : Engine} {op : Operation Order.Answer} {id : SectionId} {s : Store}
    (order : op.IsOrder) (opened : e.store.begin = (.ok id, s)) :
    Advance e (.arriving op) { e with store := s } (.inside id op op.body.run) := by
  rw [Store.begin] at opened
  split at opened
  · next free =>
    cases opened
    have seen : e.store.opening.2.seen (some e.store.nextSection) = e.store.committed := by
      simp [Store.seen, Store.copyOf, Store.opening]
    refine ⟨.inl rfl, ⟨order, rfl, ?_⟩, ?_, fun _ => .inr free⟩
    · exact congrArg op.body.run.exec seen
    · intro v known _
      cases inside : v.isInside with
      | false => exact known.of_not_inside inside
      | true =>
        rw [known.taken inside] at free
        cases free
  · cases opened

/-- Someone in a section makes a request. -/
theorem advance_inside {e : Engine} {id : SectionId} {op : Operation Order.Answer} {q : Request}
    {next : Except Failure q.Reply → Program (Except Failure (Order.Answer × Aftermath))}
    {reply : Except Failure q.Reply} {s : Store} (fits : (inside id op (.ask q next)).Fits e.store)
    (answered : e.store.request (some id) q = (reply, s)) :
    Advance e (.inside id op (.ask q next)) { e with store := s } (.inside id op (next reply)) := by
  obtain ⟨order, opened, ahead⟩ := fits
  obtain ⟨copy, request, after⟩ := Store.request_inside opened q
  rw [request] at answered
  cases answered
  refine ⟨.inl rfl, ⟨order, rfl, ?_⟩, ?_, fun _ => .inl rfl⟩
  · rw [Store.seen_opened, after]
    exact ahead
  · exact fun v known alone => known.of_not_inside (alone rfl)

/-- What a section comes to is what its order does to the committed contents. -/
theorem Fits.commit {s : Store} {id : SectionId} {op : Operation Order.Answer}
    {answer : Order.Answer × Aftermath} (fits : (inside id op (.done (.ok answer))).Fits s) :
    op.body.run.exec s.committed = (.ok answer, s.commit.committed) := by
  obtain ⟨-, opened, ahead⟩ := fits
  obtain ⟨copy, stored⟩ := Store.openId_eq_some.mp opened
  have seen : s.seen (some id) = copy.getD s.committed := by
    simp [Store.seen, Store.copyOf, stored]
  rw [← ahead, seen, Store.commit, stored]
  rfl

/-- Someone commits a section: the order is done as if it had been alone all the time. -/
theorem advance_commit {e : Engine} {id : SectionId} {op : Operation Order.Answer}
    {answer : Order.Answer} {after : Aftermath}
    (fits : (inside id op (.done (.ok (answer, after)))).Fits e.store) :
    Advance e (.inside id op (.done (.ok (answer, after))))
      ({ e with store := e.store.commit }.conclude after) .gone := by
  have done := fits.commit
  obtain ⟨⟨order, settings, bound, carries, -⟩, -⟩ := fits
  refine advance_leave rfl (.inr ⟨order, settings, bound, ?_⟩)
  rw [Order.conclude_committed, ← carries, done]

theorem step_advance {e e' : Engine} {w w' : Worker} (fits : w.Fits e.store)
    (step : w.Step e e' w') : Advance e w e' w' := by
  have same : e.store.StaysOut e.store := Store.staysOut_same rfl rfl
  cases step with
  | @activity _ a a' _ _ step =>
    cases a with
    | call c =>
      obtain ⟨⟨next, c'⟩, went, ends⟩ := Option.map_eq_some_iff.mp step
      cases ends
      have result := Call.step_fits fits went
      exact advance_out result.1 result.2 rfl
    | acquire a =>
      obtain ⟨⟨next, a'⟩, went, ends⟩ := Option.map_eq_some_iff.mp step
      cases ends
      exact advance_out (Acquirer.step_staysOut went) trivial rfl
  | cancel => exact advance_out same trivial rfl
  | enter _ opened => exact advance_enter fits opened
  | refused _ refused =>
    rw [Store.begin] at refused
    split at refused
    · cases refused
    · cases refused
      exact advance_out same trivial rfl
  | start outside => exact advance_out same ⟨fits, .inl ⟨outside, rfl⟩⟩ rfl
  | inside answered => exact advance_inside fits answered
  | commit => exact advance_commit fits
  | rollback => exact advance_leave rfl (.inl rfl)
  | drop => exact advance_leave rfl (.inl rfl)
  | outside answered =>
    obtain ⟨order, ⟨outside, asks⟩ | ⟨result, ends⟩⟩ := fits
    · have out := Store.staysOut_request order outside asks.symm answered
      have brief := order.brief outside
      rw [← asks] at brief
      exact advance_out out ⟨order, .inr (brief _)⟩ rfl
    · cases ends
  | finish => exact advance_out (Store.staysOut_conclude same _) trivial rfl

/-- Someone who acquires and need not wait takes a step. -/
theorem step_acquire {e : Engine} {a : Acquirer} {now : Nat} {wall : UInt64}
    (ready : (a.step now wall e).isSome = true) :
    Step e (.activity (.acquire a)) ((a.step now wall e).get ready).1
      (.activity (.acquire ((a.step now wall e).get ready).2)) := by
  refine @Step.activity _ _ _ _ wall now ?_
  rw [Activity.step, Option.map_eq_some_iff]
  exact ⟨_, (Option.some_get ready).symm, rfl⟩

end Worker

/-! ## 2. Runs -/

namespace Floor

variable {f g : Floor}

/-- One worker at most is in a section, and each has before it what its order does. -/
structure Sound (f : Floor) : Prop where
  wellFormed : f.committed.WellFormed
  alone : f.workers.Pairwise fun v w => v.isInside = true → w.isInside = false
  fits : ∀ w ∈ f.workers, w.Fits f.engine.store

/-- What one worker does leaves the floor sound. -/
theorem sound_advance {e e' : Engine} {before after : List Worker} {w w' : Worker}
    (sound : Sound ⟨e, before ++ w :: after⟩) (advance : w.Advance e e' w') :
    Sound ⟨e', before ++ w' :: after⟩ := by
  have symm : ∀ {v w : Worker}, (v.isInside = true → w.isInside = false) →
      w.isInside = true → v.isInside = false := by
    intro v w one both
    cases inside : v.isInside with
    | false => rfl
    | true => rw [one inside] at both; cases both
  obtain ⟨wellFormed, alone, fits⟩ := sound
  -- The order of the workers does not matter, so the one that takes the step may stand first.
  rw [List.pairwise_middle symm, List.pairwise_cons] at alone
  obtain ⟨others, rest⟩ := alone
  have known : ∀ v ∈ before ++ after, v.Fits e.store := by
    intro v member
    refine fits v ?_
    rcases List.mem_append.mp member with first | last
    · exact List.mem_append_left _ first
    · exact List.mem_append_right _ (List.mem_cons_of_mem _ last)
  refine ⟨(advance.commits.follows wellFormed).wellFormed, ?_, ?_⟩
  · rw [List.pairwise_middle symm, List.pairwise_cons]
    refine ⟨fun v member inside => ?_, rest⟩
    -- Whoever enters a section finds none open, so nobody else is in one.
    rcases advance.enters inside with was | free
    · exact others v member was
    · cases busy : v.isInside with
      | false => rfl
      | true =>
        rw [(known v member).taken busy] at free
        cases free
  · intro v member
    have among : v ∈ w' :: (before ++ after) := List.perm_middle.mem_iff.mp member
    rcases List.mem_cons.mp among with rfl | other
    · exact advance.fits
    · exact advance.others v (known v other) (others v other)

/-- Someone joins who has not begun. -/
theorem sound_join {e : Engine} {workers : List Worker} {w : Worker} (sound : Sound ⟨e, workers⟩)
    (new : w.New e) : Sound ⟨e, w :: workers⟩ := by
  have begins := new.fits
  refine ⟨sound.wellFormed, ?_, List.forall_mem_cons.mpr ⟨begins.1, sound.fits⟩⟩
  refine List.pairwise_cons.mpr ⟨fun other _ inside => ?_, sound.alone⟩
  rw [begins.2] at inside
  cases inside

/-- A step on a floor commits an order at most. -/
theorem sound_step (sound : f.Sound) (step : f.Step g) :
    g.Sound ∧ f.engine.store.CommitsOne g.engine.store := by
  cases step with
  | join new => exact ⟨sound_join sound new, .inl rfl⟩
  | @work e e' before after w w' step =>
    have advance := Worker.step_advance (sound.fits w (by simp)) step
    exact ⟨sound_advance sound advance, advance.commits⟩

theorem sound_idle (h : f.committed.WellFormed) (idle : f.workers = []) : f.Sound := by
  refine ⟨h, ?_, ?_⟩
  · rw [idle]
    exact .nil
  · rw [idle]
    exact nofun

theorem Run.sound {allowed : Contents → Contents → Prop} {start : Floor} (sound : start.Sound)
    (run : Run allowed start f) : f.Sound := by
  induction run with
  | nil => exact sound
  | snoc _ step _ ih => exact (sound_step ih step).1

/-- An activity that need not wait takes its step. -/
theorem step_activity {e : Engine} {a : Activity Order.Answer} {workers : List Worker}
    (wall : UInt64) (now : Nat) (ready : (a.step wall now e).isSome = true) :
    Step ⟨e, .activity a :: workers⟩ ⟨((a.step wall now e).get ready).1,
      .activity ((a.step wall now e).get ready).2 :: workers⟩ :=
  @Step.work _ _ [] _ _ _ (.activity (Option.some_get ready).symm)

end Floor

end TaskQueue
