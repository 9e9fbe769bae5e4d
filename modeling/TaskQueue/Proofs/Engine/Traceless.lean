import TaskQueue.Proofs.Engine.Seeking

/-!
# Whoever gives up leaves no trace

An acquire may make any number of attempts, and end at any moment without a task: at its deadline,
when it is told to give up, when the queue is closed, when an attempt fails. Whatever happens while
an attempt is under way, one that selects a task is the last one, and the task is handed out.

Results:
1. `Seeker.moves_trace`: a move of someone who acquires changes nothing, or it commits a selection
   and hands it out.
2. `Seeker.Quest.traceless`: without a task in the end nothing was changed, and a selection that was
   committed is the result.
-/

namespace TaskQueue

/-! ## 1. What a move changes -/

/-- What an attempt comes to that has the contents for itself. -/
theorem Order.acquire_choice {c d : Contents} {settings : CursorSettings} {bound : Nat}
    {wall : UInt64} {choice : Option Task} {after : Aftermath} (h : c.WellFormed)
    (done : (acquire wall).exec settings bound c = (.ok (.task choice, after), d)) :
    (choice = none ∧ d = c) ∨ ∃ task, choice = some task ∧ c.Starts task d := by
  have outcome := exec_outcome h settings bound (.acquire wall)
  rw [done] at outcome
  cases outcome with
  | idle => exact .inl ⟨rfl, rfl⟩
  | @started _ task _ stored queued room =>
    exact .inr ⟨_, rfl, task, wall, stored, queued, room, rfl, rfl⟩

namespace Acquirer

/-- Nothing is changed, and no task is selected. -/
def Deed.Still (x : Deed) : Prop :=
  x.after = x.before ∧ ∀ task, x.doing ≠ .attempts (.ok (some task))

/-- A queued task is selected, and runs from then on. -/
def Deed.Selects (x : Deed) (task : Task) : Prop :=
  x.doing = .attempts (.ok (some task)) ∧ x.before.Starts task x.after

/-- No task was handed out, so far at least. -/
def EmptyHanded (a : Acquirer) : Prop :=
  ∀ task, a.result? ≠ some (.ok (some task))

theorem answered_emptyHanded (now : Nat) (e : Engine) (a : Acquirer) (failure : Failure) :
    (a.answered now e (.error failure)).EmptyHanded := by
  intro task
  cases failure <;> exact nofun

end Acquirer

namespace Seeker

open Acquirer (Deed)

/-- What someone who acquires has done: nothing that shows, or in the end they selected a task,
which was handed out. -/
inductive Trace (s : Seeker) : List Deed → Prop
  | still {h : List Deed} : (∀ x ∈ h, x.Still) → s.acquirer.EmptyHanded → Trace s h
  | selected {earlier : List Deed} {last : Deed} {task : Task} : (∀ x ∈ earlier, x.Still) →
      last.Selects task → s.acquirer.result? = some (.ok (some task)) → Trace s (earlier ++ [last])

variable {f : Floor} {s s' : Seeker} {e e' : Engine} {workers : List Worker} {now : Nat}
  {deeds h : List Deed}

/-- Whoever is done does nothing more. -/
theorem moves_result (seated : Seated ⟨e, workers⟩ s) (moves : s.Moves now e deeds e' s') :
    s.acquirer.result? = none := by
  have entering (attempt) (under : s.attempt = some attempt) : s.acquirer.result? = none := by
    obtain ⟨-, -, limit, stage⟩ := seated.during attempt under
    simp [Acquirer.result?, stage]
  cases moves with
  | begins stage | refused stage | opens stage | hears stage => simp [Acquirer.result?, stage]
  | asks | commits | fails => exact entering _ rfl
  | leaves stage =>
    rcases stage with stage | waits
    · simp [Acquirer.result?, stage]
    · obtain ⟨limit, stage⟩ := Acquirer.Errand.stage_of_isWaiting waits
      simp [Acquirer.result?, stage]

theorem moves_trace (seated : Seated ⟨e, workers⟩ s) (moves : s.Moves now e deeds e' s') :
    s'.Trace deeds := by
  have under := moves_result seated moves
  cases moves with
  | begins | refused =>
    exact .still (List.forall_mem_singleton.mpr ⟨rfl, nofun⟩) (by rintro task ⟨⟩)
  | opens | asks =>
    exact .still (List.forall_mem_nil _) fun task ended => by rw [under] at ended; cases ended
  | hears =>
    exact .still (List.forall_mem_singleton.mpr ⟨rfl, nofun⟩) (Acquirer.wake_chosen _ _ _)
  | leaves => exact .still (List.forall_mem_singleton.mpr ⟨rfl, nofun⟩) (by rintro task ⟨⟩)
  | fails =>
    obtain ⟨found, -⟩ := seated.during _ rfl
    exact .still (List.forall_mem_singleton.mpr ⟨found.symm, nofun⟩)
      (Acquirer.answered_emptyHanded _ _ _ _)
  | @commits a id op choice after found _ ends =>
    -- Nobody changed what the attempt has found, so its selection is what is committed.
    obtain ⟨same, ⟨wall, settings, bound, order⟩, -⟩ := seated.during _ rfl
    obtain rfl : op = _ := order
    obtain rfl : found = e.store.committed := same
    have done := (seated.sound.fits _ List.mem_cons_self).commit
    have left : e'.store.committed = e.store.commit.committed := by
      rw [← ends, Order.conclude_committed]
    rcases Order.acquire_choice seated.sound.wellFormed done with
      ⟨rfl, kept⟩ | ⟨task, rfl, starts⟩
    · exact .still (List.forall_mem_singleton.mpr ⟨left.trans kept, nofun⟩)
        (Acquirer.afterMiss_chosen _ _ _)
    · exact .selected (List.forall_mem_nil _) ⟨rfl, by rwa [left]⟩ rfl

/-- Before a move nothing was done that shows. -/
theorem Trace.append (trace : s.Trace h) (under : s.acquirer.result? = none)
    (more : s'.Trace deeds) : s'.Trace (h ++ deeds) := by
  cases trace with
  | selected _ _ handed =>
    rw [under] at handed
    cases handed
  | still still =>
    cases more with
    | still others emptyHanded =>
      exact .still (List.forall_mem_append.mpr ⟨still, others⟩) emptyHanded
    | selected others selects handed =>
      rw [← List.append_assoc]
      exact .selected (List.forall_mem_append.mpr ⟨still, others⟩) selects handed

/-! ## 2. Whole quests -/

/-- What is left of an acquire. -/
structure Traceless (h : List Deed) (f : Floor) (s : Seeker) : Prop where
  /-- Unless a task is handed out, nothing was changed. -/
  kept : (∀ task, s.acquirer.result? ≠ some (.ok (some task))) → ∀ x ∈ h, x.after = x.before
  /-- Only an attempt that selects a task changes anything. -/
  changes : ∀ x ∈ h, x.after ≠ x.before → ∃ task, x.doing = .attempts (.ok (some task))
  /-- The task was queued and runs from then on. It is what the acquire returns, and nothing
  follows. -/
  handed : ∀ x ∈ h, ∀ task, x.doing = .attempts (.ok (some task)) →
    x.before.Starts task x.after ∧ s.acquirer.result? = some (.ok (some task)) ∧
      h.getLast? = some x
  /-- No other task is returned. -/
  selected : ∀ task, s.acquirer.result? = some (.ok (some task)) →
    ∃ x ∈ h, x.doing = .attempts (.ok (some task))
  /-- While an attempt is under way, what it has found stays as it is. -/
  pending : ∀ attempt, s.attempt = some attempt →
    attempt.found = f.committed ∧ s.acquirer.result? = none

namespace Quest

variable {origin : Floor} {first : Acquirer} {start : Nat}

theorem trace (begins : origin.Sound) (under : first.result? = none)
    (quest : Quest origin first start h now f s) : s.Trace h := by
  induction quest with
  | nil =>
    exact .still (List.forall_mem_nil _) fun task ended => by rw [under] at ended; cases ended
  | passes _ _ ih | others _ _ ih | closes _ ih => exact ih
  | cancels _ ih =>
    cases ih with
    | still still emptyHanded => exact .still still emptyHanded
    | selected still selects handed => exact .selected still selects handed
  | moves earlier moves ih =>
    have seated := earlier.seated begins
    exact ih.append (moves_result seated moves) (moves_trace seated moves)

/-- After any run of any number of workers someone begins to acquire, with a deadline or without,
while the others do whatever they do. The deadline may pass at any moment, the queue may be closed,
they may be told to give up, and any request of an attempt may fail. If no task comes of it, nothing
was changed; if an attempt has committed a selection, it is what comes of it. -/
theorem traceless {origin : Floor} {e : Engine} {workers : List Worker} {deadline : Option Nat}
    (formed : origin.committed.WellFormed) (idle : origin.workers = [])
    (run : Floor.Run (fun _ _ => True) origin ⟨e, workers⟩)
    (quest : Quest ⟨e, workers⟩ (.begin e deadline) start h now f s) : Traceless h f s := by
  have begins := run.sound (Floor.sound_idle formed idle)
  have seated := quest.seated begins
  have pending (attempt) (under : s.attempt = some attempt) :
      attempt.found = f.committed ∧ s.acquirer.result? = none := by
    obtain ⟨found, -, limit, stage⟩ := seated.during attempt under
    exact ⟨found, by simp [Acquirer.result?, stage]⟩
  cases quest.trace begins rfl with
  | still still emptyHanded =>
    refine ⟨fun _ x member => (still x member).1,
      fun x member changed => absurd (still x member).1 changed,
      fun x member task selects => absurd selects ((still x member).2 task),
      fun task handed => absurd handed (emptyHanded task), pending⟩
  | @selected earlier last task still selects handed =>
    refine ⟨fun none => absurd handed (none task), ?_, ?_, ?_, pending⟩
    · intro x member changed
      rcases List.mem_append.mp member with early | late
      · exact absurd (still x early).1 changed
      · obtain rfl := List.mem_singleton.mp late
        exact ⟨task, selects.1⟩
    · intro x member other chosen
      rcases List.mem_append.mp member with early | late
      · exact absurd chosen ((still x early).2 other)
      · obtain rfl := List.mem_singleton.mp late
        obtain rfl : other = task := by simpa [chosen] using selects.1
        exact ⟨selects.2, handed, List.getLast?_concat⟩
    · intro other returned
      obtain rfl : task = other := by simpa [handed] using returned
      exact ⟨last, List.mem_append_right _ List.mem_cons_self, selects.1⟩

/-- While an attempt is under way its acquirer is told to give up, the queue is closed and the
deadline passes. The task is handed out all the same. -/
theorem traceless_cancelled :
    let e : Engine := { Engine.new .inMemory .standard with
      store := { Store.new .inMemory with
        committed := (Contents.empty.answer (.queue [default])).2 } }
    let origin : Floor := ⟨e, []⟩
    ∃ h f s, origin.committed.WellFormed ∧ origin.workers = [] ∧
      Floor.Run (fun _ _ => True) origin ⟨e, []⟩ ∧
      Quest ⟨e, []⟩ (.begin e (some 5)) 0 h 9 f s ∧ Traceless h f s ∧
      s.acquirer.cancelled = true ∧ f.engine.store.changes.closed = true ∧
      ∃ task, s.acquirer.result? = some (.ok (some task)) := by
  intro e origin
  have reachable : origin.committed.Reachable := .answer .empty trivial
  have run : Floor.Run (fun _ _ => True) origin ⟨e, []⟩ := .nil
  have nothing : Quest origin (.begin e (some 5)) 0 [] 0 ⟨e, []⟩ ⟨.begin e (some 5), none⟩ := .nil
  have begins := nothing.moves (.begins rfl rfl)
  have opens := begins.moves (@Moves.opens 0 e _ _ 0 _ _ rfl rfl)
  have interrupted : Quest _ _ _ _ 9 _ _ := opens.cancels.closes.passes (by decide)
  have returns := interrupted.answers rfl rfl
  exact ⟨_, _, _, reachable.wellFormed, rfl, run, returns,
    traceless reachable.wellFormed rfl run returns, rfl, rfl, _, rfl⟩

end Quest

end Seeker

end TaskQueue
