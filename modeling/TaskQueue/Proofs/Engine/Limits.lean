import TaskQueue.Proofs.Engine.Floor

/-!
# Rate limits hold over whole runs

Results:
1. `follows_withinLimits`: what an order leaves is within the limits, if no limit was set below the
   number of running tasks.
2. `run_withinLimits`: so is everything that any number of workers can reach, in any interleaving.
-/

namespace TaskQueue

namespace Contents

variable {c d : Contents}

/-- Each tag with a limit is carried by no more running tasks than that. -/
def WithinLimits (c : Contents) : Prop :=
  ∀ tag limit, c.rateLimits.get? tag = some limit → c.runningWith tag ≤ limit

/-- A limit that is new is not below the number of running tasks with its tag at that moment. -/
def LimitsFit (c d : Contents) : Prop :=
  ∀ tag limit, d.rateLimits.get? tag = some limit →
    c.rateLimits.get? tag = some limit ∨ c.runningWith tag ≤ limit

theorem follows_withinLimits (within : c.WithinLimits) (fit : c.LimitsFit d)
    (follows : c.Follows d) : d.WithinLimits := by
  intro tag limit limited
  rcases follows.running tag with fewer | capped
  · rcases fit tag limit limited with old | room
    · exact Nat.le_trans fewer (within tag limit old)
    · exact Nat.le_trans fewer room
  · exact capped limit limited

end Contents

namespace Floor

/-- Beginning with contents within their limits, and as long as no limit is set below the number of
running tasks with its tag, no interleaving of workers leads out of the limits. -/
theorem run_withinLimits {start f : Floor} (reachable : start.committed.Reachable)
    (idle : start.workers = []) (within : start.committed.WithinLimits)
    (run : Run Contents.LimitsFit start f) : f.committed.WithinLimits := by
  have sound : start.Sound := sound_idle reachable.wellFormed idle
  induction run with
  | nil => exact within
  | snoc earlier step fit ih =>
    have before := earlier.sound sound
    have commits := (sound_step before step).2
    exact Contents.follows_withinLimits ih fit (commits.follows before.wellFormed)

/-- Two queued tasks carry a tag whose limit is one: someone takes the first, and someone else finds
none. -/
theorem run_withinLimits_two_acquirers :
    let task (n : Nat) : Task := (Task.new (.ofNat n) 0 "job" default).withTag "slow"
    let queued := (Contents.empty.answer (.queue [task 1, task 2])).2
    let start : Floor := ⟨{ Engine.new .inMemory .standard with store :=
      { Store.new .inMemory with committed := (queued.answer (.setRateLimit "slow" 1)).2 } }, []⟩
    ∃ f, start.committed.Reachable ∧ start.workers = [] ∧ start.committed.WithinLimits ∧
      Run Contents.LimitsFit start f ∧ f.committed.runningWith "slow" = 1 ∧
      f.committed.WithinLimits := by
  intro task queued start
  have reachable : start.committed.Reachable := .answer (.answer .empty trivial) trivial
  have within : start.committed.WithinLimits := fun _ _ _ => Nat.zero_le _
  have same : ∀ {c d : Contents}, d.rateLimits.entries = c.rateLimits.entries →
      c.LimitsFit d := by
    intro c d same tag limit limited
    rw [Table.get?, same] at limited
    exact .inl limited
  have idle : Run Contents.LimitsFit start start := .nil
  have first := idle.snoc (.join (@Worker.New.acquire _ none)) (same rfl)
  have tries := first.snoc (step_activity 0 0 rfl) (same rfl)
  have takes := tries.snoc (step_activity 0 0 (by decide +kernel)) (same (by decide +kernel))
  have second := takes.snoc (.join (@Worker.New.acquire _ none)) (same (by decide +kernel))
  have tries := second.snoc (step_activity 0 0 (by decide +kernel)) (same (by decide +kernel))
  have misses := tries.snoc (step_activity 0 0 (by decide +kernel)) (same (by decide +kernel))
  have result := run_withinLimits reachable rfl within misses
  refine ⟨_, reachable, rfl, within, misses, ?_, result⟩
  decide +kernel

end Floor

end TaskQueue
