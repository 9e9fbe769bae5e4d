import TaskQueue.Proofs.Consumer.Station

/-!
# The connection of a consumer and its readers

A consumer sends over one connection at a time, but the reader of an earlier one may go on: it is
told to stop when its connection is lost, and not when another one takes its place.

Results:
1. `Run.loops`: while the consumer is reconnecting there is one loop of attempts, and else none.
2. `Step.linked_iff`: there is a connection if and only if one was opened and has not been lost.
3. `Run.stale_iff`: the readers that were not told to stop, and whose connection is not the current
   one, are those of connections that were replaced while they could be used.
-/

namespace TaskQueue

open Consumer

variable {c d : Consumer} {x : Incident} {works : List Work} {w : Work} {generation : Nat}
  {h later : List Incident}

/-! ## 1. Loops of attempts -/

/-- The number of loops of attempts that a consumer counts. -/
def Consumer.loops (c : Consumer) : Nat :=
  if c.reconnecting then 1 else 0

theorem Consumer.Alike.loops (alike : c.Alike d) : d.loops = c.loops := by
  rw [Consumer.loops, Consumer.loops, alike.reconnecting]

theorem Work.not_isLoop (quiet : w.isAttempt = false) : w.isLoop = false := by
  cases w with
  | retrying => cases quiet
  | _ => rfl

theorem countP_isLoop_of_any (quiet : works.any Work.isAttempt = false) :
    works.countP Work.isLoop = 0 := by
  refine List.countP_eq_zero.mpr fun w member => ?_
  have never := List.any_eq_false.mp quiet w member
  rw [Work.not_isLoop (by simpa using never)]
  exact nofun

theorem Work.not_isAttempt (reports : w.isReporting = true) : w.isAttempt = false := by
  cases w with
  | reporting => rfl
  | _ => cases reports

theorem not_attempt_of_reporting {work became : Option Work}
    (reports : (work.toList ++ became.toList).all Work.isReporting = true)
    (member : w ∈ work.toList ++ became.toList) : w.isAttempt ≠ true := by
  rw [Work.not_isAttempt (List.all_eq_true.mp reports w member)]
  exact nofun

/-- Whoever gives a command is no loop before or after that. -/
theorem countP_isLoop_of_reporting {work became : Option Work}
    (reports : (work.toList ++ became.toList).all Work.isReporting = true) :
    work.toList.countP Work.isLoop = 0 ∧ became.toList.countP Work.isLoop = 0 := by
  rw [← Nat.add_eq_zero_iff, ← List.countP_append]
  refine countP_isLoop_of_any (List.any_eq_false.mpr fun w member => ?_)
  exact not_attempt_of_reporting reports member

theorem Consumer.Reconnects.loops (reconnects : c.Reconnects d works) :
    d.loops = c.loops + works.countP Work.isLoop := by
  cases reconnects with
  | idle _ alike => exact alike.loops
  | begin _ _ rests alike =>
    rw [alike.loops]
    simp [Consumer.loops, rests, Work.isLoop]

theorem Consumer.unlinked_loops (same : d = c ∨ d = c.unlink) : d.loops = c.loops := by
  rcases same with rfl | rfl <;> rfl

theorem Consumer.Greets.loops {complete : Bool} {sent : List Command}
    (greets : c.Greets complete sent d) : d.loops = c.loops := by
  rw [greets.same]
  rfl

/-- A loop that is over was the only one. -/
theorem Consumer.loops_over (counted : 1 ≤ c.loops) : c.loops = 1 := by
  unfold Consumer.loops at counted ⊢
  split at counted <;> simp_all

/-- A loop begins when the consumer begins to count it, and is over when it ceases to. -/
theorem Happens.loops (happens : Happens x)
    (counted : x.work.toList.countP Work.isLoop ≤ x.before.loops) :
    x.after.loops + x.work.toList.countP Work.isLoop =
      x.before.loops + (x.became.toList ++ x.begun).countP Work.isLoop := by
  cases happens with
  | @still work _ _ _ _ loop _ quiet _ alike =>
    have none : work.toList.countP Work.isLoop = 0 := by
      cases work with
      | none => rfl
      | some w => simpa using loop
    dsimp only
    rw [alike.loops, countP_isLoop_of_any quiet, none]
  | receives => rfl
  | connects _ alike => exact congrArg (· + 0) alike.loops
  | retries alike => exact congrArg (· + 1) alike.loops
  | ceases alike =>
    have only := Consumer.loops_over counted
    dsimp only
    rw [alike.loops, only]
    rfl
  | fails greets alike => exact congrArg (· + 0) (alike.loops.trans greets.loops)
  | pauses greets alike => exact congrArg (· + 1) (alike.loops.trans greets.loops)
  | opens greets => exact congrArg (· + 0) greets.loops
  | reopens greets =>
    have only := Consumer.loops_over counted
    dsimp only
    rw [only]
    rfl
  | @sends work became command c reports =>
    obtain ⟨none, neither⟩ := countP_isLoop_of_reporting reports
    obtain ⟨active, same⟩ := c.sent_eq command
    simp only [List.append_nil]
    rw [none, neither, same]
    rfl
  | @waits work became begun command c d reports _ reconnects =>
    obtain ⟨none, neither⟩ := countP_isLoop_of_reporting reports
    have counts : d.loops = c.cut.loops + begun.countP Work.isLoop := reconnects.loops
    simp only [List.countP_append]
    rw [none, neither, counts, unlinked_loops c.cut_cases, Nat.add_zero, Nat.zero_add]
  | @refuses work became command c reports =>
    obtain ⟨none, neither⟩ := countP_isLoop_of_reporting reports
    simp only [List.append_nil]
    rw [none, neither, unlinked_loops c.cut_cases]
  | @loses _ generation begun c d reconnects =>
    have counts := reconnects.loops
    rw [unlinked_loops (c.drop_cases generation)] at counts
    exact counts
  | ticks _ reconnects => exact reconnects.loops
  | closes => rfl

namespace Station

variable {start f g : Station}

theorem Run.loops (new : New start) (run : Run start h f) :
    f.works.countP Work.isLoop = f.consumer.loops := by
  induction run with
  | nil =>
    obtain ⟨settings, handler, fresh⟩ := new.consumer
    rw [new.works, fresh]
    rfl
  | @snoc h f g x earlier step ih =>
    obtain ⟨front, back, old, now⟩ := step.works
    rw [old, List.countP_append, List.countP_append, ← step.before] at ih
    have counts := step.happens.loops (by omega)
    rw [List.countP_append] at counts
    rw [now, ← step.after]
    simp only [List.countP_append]
    omega

theorem Run.reconnecting (new : New start) (run : Run start h f) (member : w ∈ f.works)
    (loop : w.isLoop = true) : f.consumer.reconnecting = true := by
  have counted : 0 < f.works.countP Work.isLoop := List.countP_pos_iff.mpr ⟨w, member, loop⟩
  rw [run.loops new, Consumer.loops] at counted
  by_contra rests
  rw [if_neg rests] at counted
  cases counted

end Station

/-! ## 2. The connection -/

/-- What a step does to the connection and to the readers: nothing, or the connection cannot be used
any more and its reader is told to stop, or a new one takes its place, or all readers are told to
stop. -/
inductive Relinks (x : Incident) : Prop
  | keeps : x.work ≠ some .closing → x.after.link = x.before.link →
      x.after.generation = x.before.generation → x.after.reading = x.before.reading → Relinks x
  | cuts : x.work ≠ some .closing → x.after.link = none →
      x.after.generation = x.before.generation →
      x.after.reading = x.before.reading.filter (· ≠ x.before.generation) → Relinks x
  | opens {id : ConnectionId} {w : Work} : x.work = some w → w.isAttempt = true →
      x.after.link = some id → x.after.generation = x.before.generation + 1 →
      x.after.reading = (x.before.generation + 1) :: x.before.reading → Relinks x
  | stops : x.work = some .closing → x.after.link = none →
      x.after.generation = x.before.generation → x.after.reading = [] → Relinks x

theorem Relinks.of_alike (goesOn : x.work ≠ some .closing) (alike : x.before.Alike x.after) :
    Relinks x :=
  .keeps goesOn alike.link alike.generation alike.reading

theorem not_closing_of_reporting {work became : Option Work}
    (reports : (work.toList ++ became.toList).all Work.isReporting = true) :
    work ≠ some .closing := by
  rintro rfl
  cases reports

theorem Happens.relinks (happens : Happens x) : Relinks x := by
  cases happens with
  | still _ goesOn _ _ alike => exact .of_alike goesOn alike
  | receives => exact .keeps nofun rfl rfl rfl
  | connects _ alike => exact .of_alike nofun alike
  | retries alike => exact .of_alike nofun alike
  | ceases alike => exact .keeps nofun alike.link alike.generation alike.reading
  | @fails _ _ _ _ c e d greets alike =>
    rw [greets.same] at alike
    exact .keeps nofun alike.link alike.generation alike.reading
  | @pauses _ _ _ _ c e d greets alike =>
    rw [greets.same] at alike
    exact .keeps nofun alike.link alike.generation alike.reading
  | opens greets =>
    rw [greets.same]
    exact .opens rfl rfl rfl rfl rfl
  | reopens greets =>
    rw [greets.same]
    exact .opens rfl rfl rfl rfl rfl
  | @sends _ _ command c reports =>
    obtain ⟨active, same⟩ := c.sent_eq command
    rw [same]
    exact .keeps (not_closing_of_reporting reports) rfl rfl rfl
  | @waits _ _ _ command c d reports _ reconnects =>
    have goesOn := not_closing_of_reporting reports
    have alike := reconnects.alike
    rcases c.cut_cases with cut | cut <;> rw [cut] at alike
    · exact .keeps goesOn alike.link alike.generation alike.reading
    · exact .cuts goesOn alike.link alike.generation alike.reading
  | @refuses _ _ _ c reports =>
    have goesOn := not_closing_of_reporting reports
    rcases c.cut_cases with cut | cut <;> rw [cut]
    · exact .keeps goesOn rfl rfl rfl
    · exact .cuts goesOn rfl rfl rfl
  | @loses _ generation _ c d reconnects =>
    have alike := reconnects.alike
    rcases c.drop_cases generation with drop | drop <;> rw [drop] at alike
    · exact .keeps nofun alike.link alike.generation alike.reading
    · exact .cuts nofun alike.link alike.generation alike.reading
  | ticks _ reconnects =>
    have alike := reconnects.alike
    exact .keeps nofun alike.link alike.generation alike.reading
  | closes => exact .stops rfl rfl rfl rfl

/-- A step in which a connection is opened. -/
def Incident.Opens (x : Incident) : Prop :=
  x.after.generation = x.before.generation + 1

/-- A step after which there is a connection. -/
def Incident.Linked (x : Incident) : Prop :=
  x.after.link.isSome = true

theorem Relinks.linked (relinks : Relinks x) (linked : x.Linked) :
    x.before.link.isSome = true ∨ x.Opens := by
  unfold Incident.Linked at linked
  cases relinks with
  | keeps _ link _ _ =>
    rw [link] at linked
    exact .inl linked
  | cuts _ link _ _ =>
    rw [link] at linked
    cases linked
  | opens _ _ _ generation _ => exact .inr generation
  | stops _ link _ _ =>
    rw [link] at linked
    cases linked

theorem Relinks.attempt (relinks : Relinks x) (opens : x.Opens) :
    ∃ w, x.work = some w ∧ w.isAttempt = true := by
  unfold Incident.Opens at opens
  cases relinks with
  | opens work attempt _ _ _ => exact ⟨_, work, attempt⟩
  | keeps _ _ same _ => omega
  | cuts _ _ same _ => omega
  | stops _ _ same _ => omega

namespace Station

variable {start f g : Station}

/-- A connection was opened, and has not been lost since; another one may have taken its place. -/
def OpenedSince (h : List Incident) : Prop :=
  Since h (fun x => x.Opens ∧ x.Linked) Incident.Linked

/-- There is a connection if there was one from the first and it stands, or if one was opened. -/
theorem Step.linked_iff {first : Prop} (step : Step f x g)
    (before : f.consumer.link.isSome = true ↔
      first ∧ (∀ y ∈ later, y.Linked) ∨ OpenedSince later) :
    g.consumer.link.isSome = true ↔
      first ∧ (∀ y ∈ later ++ [x], y.Linked) ∨ OpenedSince (later ++ [x]) := by
  have now : x.Linked ↔ g.consumer.link.isSome = true := by rw [Incident.Linked, step.after]
  rw [← now, OpenedSince, since_snoc]
  constructor
  · intro linked
    rcases step.happens.relinks.linked linked with stands | opens
    · rw [step.before] at stands
      rcases before.mp stands with ⟨from_first, always⟩ | opened
      · refine .inl ⟨from_first, fun y member => ?_⟩
        rcases List.mem_append.mp member with old | last
        · exact always y old
        · rwa [List.mem_singleton.mp last]
      · exact .inr (.inr ⟨opened, linked⟩)
    · exact .inr (.inl ⟨opens, linked⟩)
  · rintro (⟨-, always⟩ | ⟨-, linked⟩ | ⟨-, linked⟩)
    · exact always x (by simp)
    · exact linked
    · exact linked

end Station

/-! ## 3. Readers of replaced connections -/

/-- The current reader was told to stop if and only if there is no connection, and no reader is
newer. -/
structure Consumer.Current (c : Consumer) : Prop where
  reading : c.generation ∈ c.reading ↔ c.link.isSome = true
  newest : ∀ generation ∈ c.reading, generation ≤ c.generation

/-- A reader that was not told to stop though its connection is not the current one. -/
def Consumer.Stale (c : Consumer) (generation : Nat) : Prop :=
  generation ∈ c.reading ∧ generation ≠ c.generation

/-- A step in which a connection takes the place of one that can be used. -/
def Incident.Replaces (x : Incident) (generation : Nat) : Prop :=
  x.Opens ∧ x.before.link.isSome = true ∧ x.before.generation = generation

theorem Relinks.current (relinks : Relinks x) (before : x.before.Current) : x.after.Current := by
  obtain ⟨reading, newest⟩ := before
  cases relinks with
  | keeps _ link generation readers =>
    refine ⟨?_, ?_⟩
    · rw [generation, readers, link]
      exact reading
    · rw [generation, readers]
      exact newest
  | cuts _ link generation readers =>
    refine ⟨?_, ?_⟩
    · simp [generation, readers, link]
    · rw [generation, readers]
      exact fun reader member => newest reader (List.mem_of_mem_filter member)
  | opens _ _ link generation readers =>
    refine ⟨?_, fun reader member => ?_⟩
    · simp [generation, readers, link]
    · rw [readers] at member
      rw [generation]
      rcases List.mem_cons.mp member with rfl | old
      · exact Nat.le_refl _
      · exact Nat.le_succ_of_le (newest reader old)
  | stops _ link _ readers =>
    refine ⟨?_, ?_⟩
    · simp [readers, link]
    · simp [readers]

theorem Incident.not_replaces (same : x.after.generation = x.before.generation) :
    ¬ x.Replaces generation := by
  rintro ⟨opens, -⟩
  unfold Incident.Opens at opens
  omega

theorem Relinks.stale_iff (relinks : Relinks x) (current : x.before.Current) :
    x.after.Stale generation ↔ x.Replaces generation ∨
      x.before.Stale generation ∧ x.work ≠ some .closing := by
  cases relinks with
  | keeps goesOn _ same readers =>
    simp [Stale, same, readers, goesOn, Incident.not_replaces same]
  | cuts goesOn _ same readers =>
    simp only [Stale, same, readers, List.mem_filter, decide_eq_true_eq,
      Incident.not_replaces same, false_or]
    constructor
    · rintro ⟨⟨member, -⟩, other⟩
      exact ⟨⟨member, other⟩, goesOn⟩
    · rintro ⟨⟨member, other⟩, -⟩
      exact ⟨⟨member, other⟩, other⟩
  | opens work attempt _ next readers =>
    have goesOn : x.work ≠ some .closing := by
      rw [work]
      rintro ⟨⟩
      cases attempt
    simp only [Stale, next, readers, List.mem_cons, Incident.Replaces, Incident.Opens, true_and]
    constructor
    · rintro ⟨rfl | member, other⟩
      · exact absurd rfl other
      · -- The reader is told to stop only if its connection was lost before.
        by_cases own : x.before.generation = generation
        · exact .inl ⟨current.reading.mp (own ▸ member), own⟩
        · exact .inr ⟨⟨member, fun same => own same.symm⟩, goesOn⟩
    · rintro (⟨linked, rfl⟩ | ⟨⟨member, -⟩, -⟩)
      · exact ⟨.inr (current.reading.mpr linked), by omega⟩
      · have older := current.newest generation member
        exact ⟨.inr member, by omega⟩
  | stops closes _ same readers =>
    simp [Stale, readers, closes, Incident.not_replaces same]

namespace Station

variable {start f g : Station}

theorem New.current (new : New start) : start.consumer.Current := by
  obtain ⟨settings, handler, fresh⟩ := new.consumer
  rw [fresh]
  exact ⟨by simp [Consumer.new], nofun⟩

theorem Run.current (new : New start) (run : Run start h f) : f.consumer.Current := by
  induction run with
  | nil => exact new.current
  | snoc _ step ih =>
    rw [← step.after]
    exact step.happens.relinks.current (step.before ▸ ih)

theorem Run.stale_iff (new : New start) (run : Run start h f) :
    f.consumer.Stale generation ↔
      Since h (·.Replaces generation) (·.work ≠ some .closing) := by
  induction run with
  | nil =>
    obtain ⟨settings, handler, fresh⟩ := new.consumer
    rw [fresh]
    exact iff_of_false (by simp [Stale, Consumer.new]) since_nil
  | @snoc h f g x earlier step ih =>
    have current := step.before ▸ earlier.current new
    rw [since_snoc, ← step.after, step.happens.relinks.stale_iff current, step.before, ih]

end Station

end TaskQueue
