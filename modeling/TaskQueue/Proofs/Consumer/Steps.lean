import TaskQueue.Consumer.Work
import TaskQueue.Proofs.Consumer.Handshake

/-!
# What a work of a consumer does in one step

Seen from the connection, a step does one of a few things: an attempt to connect begins, goes on or
is over, a command is written or waits, a task arrives, a connection is lost, or the consumer
closes. A step is recorded as an incident.

Results:
1. `reconnect_does`: a consumer tries to get its connection back, unless it need not.
2. `send_happens`: a command is written, or it waits for the next connection, or it is refused.
3. `openLink_opens`: what an attempt to open a connection writes, and what it leaves.
4. `step_happens`, `failing_happens`, `losing_happens`: nothing else can happen in one step.
-/

namespace TaskQueue

/-- A step of a work, or of the world outside: the commands that were given and those that were
written, the consumer before and after it, what the work has become, and the works that began. -/
structure Incident where
  work : Option Work
  accepted : List Command
  written : List Command
  before : Consumer
  after : Consumer
  became : Option Work
  begun : List Work

/-- The incident of a step. -/
def Turn.incident (turn : Turn Outpost Work) (work : Option Work) (accepted written : List Command)
    (before : Consumer) : Incident :=
  ⟨work, accepted, written, before, turn.state.consumer, turn.self, turn.started⟩

namespace Work

/-- A loop of attempts to get a connection back. -/
def isLoop : Work → Bool
  | .retrying _ _ => true
  | _ => false

/-- An attempt to open a connection, or a loop of them. -/
def isAttempt : Work → Bool
  | .dialling _ _ => true
  | work => work.isLoop

def isReporting : Work → Bool
  | .reporting _ _ _ _ => true
  | _ => false

end Work

namespace Consumer

variable {c d : Consumer} {works : List Work}

/-- Two consumers with the same connection, the same buffer and the same active tasks. -/
structure Alike (c d : Consumer) : Prop where
  link : d.link = c.link
  buffer : d.buffer = c.buffer
  generation : d.generation = c.generation
  reading : d.reading = c.reading
  active : d.active = c.active
  reconnecting : d.reconnecting = c.reconnecting

theorem Alike.refl (c : Consumer) : c.Alike c :=
  ⟨rfl, rfl, rfl, rfl, rfl, rfl⟩

/-- The consumer without the connection over which a write has failed, if there was one. -/
def cut (c : Consumer) : Consumer :=
  if c.link.isSome then c.unlink else c

/-- The consumer after a reader has found that nothing more comes. -/
def drop (c : Consumer) (generation : Nat) : Consumer :=
  if c.generation = generation then c.unlink else c

/-- A consumer begins to get its connection back, or it does not: it was closed, is trying already,
or is not to try. -/
inductive Reconnects (c : Consumer) : Consumer → List Work → Prop
  | idle {d : Consumer} : c.ended = true ∨ c.settings.retryInterval = 0 ∨ c.reconnecting = true →
      c.Alike d → Reconnects c d []
  | begin {d : Consumer} : c.ended = false → c.settings.retryInterval ≠ 0 →
      c.reconnecting = false → Alike { c with reconnecting := true } d →
      Reconnects c d [.retrying c.lifetime .opening]

end Consumer

open Consumer

/-- Everything that can happen to a connection in one step. -/
inductive Happens : Incident → Prop
  | still {work became : Option Work} {begun : List Work} {c d : Consumer} :
      work.any Work.isLoop = false → work ≠ some .closing →
      (became.toList ++ begun).any Work.isAttempt = false → (∀ task, .arriving task ∉ begun) →
      c.Alike d → Happens ⟨work, [], [], c, d, became, begun⟩
  | receives {id : ConnectionId} {generation : Nat} {task : Task} {c : Consumer} :
      Happens ⟨some (.reading id generation), [], [], c, c.receive task.id,
        some (.reading id generation), [.arriving task]⟩
  | connects {lifetime limit : Nat} {c d : Consumer} : c.isRunning = false → c.Alike d →
      Happens ⟨some .connecting, [], [], c, d, some (.dialling lifetime limit), []⟩
  | retries {lifetime : Nat} {stage stage' : Retry} {c d : Consumer} : c.Alike d →
      Happens ⟨some (.retrying lifetime stage), [], [], c, d,
        some (.retrying lifetime stage'), []⟩
  | ceases {lifetime : Nat} {stage : Retry} {c d : Consumer} :
      Alike { c with reconnecting := false } d →
      Happens ⟨some (.retrying lifetime stage), [], [], c, d, none, []⟩
  /-- A first connection fails before all of its handshake was sent. -/
  | fails {lifetime limit : Nat} {failure : Failure} {sent : List Command} {c e d : Consumer} :
      c.Greets false sent e → e.Alike d →
      Happens ⟨some (.dialling lifetime limit), [], sent, c, d,
        some (.connected (.error failure)), []⟩
  /-- The same in a loop of attempts, which goes on. -/
  | pauses {lifetime : Nat} {stage stage' : Retry} {sent : List Command} {c e d : Consumer} :
      c.Greets false sent e → e.Alike d →
      Happens ⟨some (.retrying lifetime stage), [], sent, c, d,
        some (.retrying lifetime stage'), []⟩
  | opens {lifetime limit now : Nat} {id : ConnectionId} {sent : List Command}
      {c e : Consumer} : c.Greets true sent e →
      Happens ⟨some (.dialling lifetime limit), [], sent, c, e.install id,
        some (.connected (.ok ())),
        [.reading id (e.generation + 1), .watching lifetime now]⟩
  | reopens {lifetime : Nat} {stage : Retry} {id : ConnectionId} {sent : List Command}
      {c e : Consumer} : c.Greets true sent e →
      Happens ⟨some (.retrying lifetime stage), [], sent, c,
        { e.install id with reconnecting := false }, none, [.reading id (e.generation + 1)]⟩
  | sends {work became : Option Work} {command : Command} {c : Consumer} :
      (work.toList ++ became.toList).all Work.isReporting = true → c.link.isSome = true →
      Happens ⟨work, [command], [command], c, c.sent command, became, []⟩
  | waits {work became : Option Work} {begun : List Work} {command : Command} {c d : Consumer} :
      (work.toList ++ became.toList).all Work.isReporting = true → command.isBufferable = true →
      (c.cut.postpone command).Reconnects d begun →
      Happens ⟨work, [command], [], c, d, became, begun⟩
  | refuses {work became : Option Work} {command : Command} {c : Consumer} :
      (work.toList ++ became.toList).all Work.isReporting = true → command.isBufferable = false →
      Happens ⟨work, [command], [], c, c.cut, became, []⟩
  | loses {id : ConnectionId} {generation : Nat} {begun : List Work} {c d : Consumer} :
      (c.drop generation).Reconnects d begun →
      Happens ⟨some (.reading id generation), [], [], c, d, none, begun⟩
  | ticks {lifetime limit limit' : Nat} {begun : List Work} {c d : Consumer} :
      c.isRunning = false → c.Reconnects d begun →
      Happens ⟨some (.watching lifetime limit), [], [], c, d, some (.watching lifetime limit'),
        begun⟩
  | closes {c : Consumer} :
      Happens ⟨some .closing, [], [], c, c.stop, some .draining, []⟩

/-! ## 1. Losing a connection -/

namespace Consumer

variable {c d : Consumer} {works : List Work}

theorem Reconnects.alike (reconnects : c.Reconnects d works) :
    c.Alike { d with reconnecting := c.reconnecting } := by
  cases reconnects with
  | idle _ alike => exact ⟨alike.link, alike.buffer, alike.generation, alike.reading, alike.active,
      rfl⟩
  | begin _ _ _ alike => exact ⟨alike.link, alike.buffer, alike.generation, alike.reading,
      alike.active, rfl⟩

theorem cut_cases (c : Consumer) : c.cut = c ∨ c.cut = c.unlink := by
  unfold cut
  split
  · exact .inr rfl
  · exact .inl rfl

theorem drop_cases (c : Consumer) (generation : Nat) :
    c.drop generation = c ∨ c.drop generation = c.unlink := by
  unfold drop
  split
  · exact .inr rfl
  · exact .inl rfl

theorem cut_link (c : Consumer) : c.cut.link = none := by
  unfold cut
  split
  · rfl
  · next none => simpa using none

theorem sent_eq (c : Consumer) (command : Command) :
    ∃ active, c.sent command = { c with active } := by
  unfold sent
  split
  · exact ⟨_, rfl⟩
  · exact ⟨c.active, rfl⟩

end Consumer

namespace Outpost

variable {o : Outpost} {c : Consumer} {network : Network} {command : Command} {lifetime : Nat}

theorem reconnect_does (o : Outpost) :
    o.consumer.Reconnects o.reconnect.1.consumer o.reconnect.2 := by
  unfold reconnect
  dsimp only
  split
  · next closed => exact .idle (.inl closed) (.refl _)
  next goesOn =>
  split
  · next never => exact .idle (.inr (.inl never)) ⟨rfl, rfl, rfl, rfl, rfl, rfl⟩
  next may =>
  split
  · next tries => exact .idle (.inr (.inr tries)) (.refl _)
  next rests =>
  exact .begin (by simpa using goesOn) may (by simpa using rests) ⟨rfl, rfl, rfl, rfl, rfl, rfl⟩

theorem unlink_consumer (o : Outpost) : o.unlink.consumer = o.consumer.unlink :=
  rfl

theorem lose_does (o : Outpost) (generation : Nat) :
    (o.consumer.drop generation).Reconnects (o.lose generation).1.consumer
      (o.lose generation).2 := by
  unfold lose drop
  split
  · exact reconnect_does o.unlink
  · exact reconnect_does o

/-! ## 2. Giving a command -/

/-- What was written at once when a command was given. -/
def passed (result : Except Failure Bool) (command : Command) : List Command :=
  match result with
  | .ok true => [command]
  | _ => []

theorem postpone_happens {work became : Option Work}
    (reports : (work.toList ++ became.toList).all Work.isReporting = true)
    (cut : o.consumer = c.cut) :
    Happens ⟨work, [command], passed (o.postpone command).1 command, c,
      (o.postpone command).2.1.consumer, became, (o.postpone command).2.2⟩ := by
  unfold postpone
  split
  · next may =>
    refine .waits reports may ?_
    rw [← cut]
    exact reconnect_does { o with consumer := o.consumer.postpone command }
  · next never =>
    rw [cut]
    exact .refuses reports (by simpa using never)

theorem send_happens {work became : Option Work}
    (reports : (work.toList ++ became.toList).all Work.isReporting = true) :
    Happens ⟨work, [command], passed (o.send command).1 command, o.consumer,
      (o.send command).2.1.consumer, became, (o.send command).2.2⟩ := by
  unfold send
  split
  · next offline => exact postpone_happens reports (by simp [cut, offline])
  · next id online =>
    split
    · exact .sends reports (by simp [online])
    · exact postpone_happens reports (by simp [cut, online, unlink_consumer])

/-! ## 3. Opening a connection -/

/-- What an attempt to open a connection writes. -/
def greeting (o : Outpost) (lifetime : Nat) : List Command :=
  if !o.consumer.isAlive lifetime then []
  else
    match o.network.dial o.consumer.settings.hostAddress with
    | (.connected id, network) =>
      (o.consumer.handshake (logged (write id o.consumer.frameLimit)) (network, [])).2.2.2
    | _ => []

/-- The ways an attempt to open a connection ends, with what was written and the consumer then. -/
inductive Opens (c : Consumer) : List Command → Opening → Prop
  | opened {sent : List Command} {d : Consumer} {network : Network} {id : ConnectionId} :
      c.Greets true sent d →
      Opens c sent (.opened ⟨network, d.install id⟩ (.reading id (d.generation + 1)))
  | failed {sent : List Command} {d : Consumer} {network : Network} {failure : Failure} :
      c.Greets false sent d → Opens c sent (.failed ⟨network, d⟩ failure)
  | refused {network : Network} {failure : Failure} : Opens c [] (.failed ⟨network, c⟩ failure)
  | silence : Opens c [] .silence
  | ended : Opens c [] .ended

theorem openLink_opens (o : Outpost) (lifetime : Nat) :
    Opens o.consumer (o.greeting lifetime) (o.openLink lifetime) := by
  unfold greeting openLink
  dsimp only
  split
  · exact .ended
  · generalize o.network.dial o.consumer.settings.hostAddress = dialled
    obtain ⟨answer, network⟩ := dialled
    cases answer with
    | silence => exact .silence
    | refused => exact .refused
    | connected id =>
      have shakes := @greets_handshake Network (write id o.consumer.frameLimit) network o.consumer
      simp only
      rw [@handshake_unlogged Network (write id o.consumer.frameLimit) network o.consumer []]
      generalize o.consumer.handshake (logged (write id o.consumer.frameLimit)) (network, []) =
        outcome at shakes ⊢
      obtain ⟨result, d, last, sent⟩ := outcome
      cases result with
      | error failure => exact .failed shakes
      | ok _ => exact .opened shakes

end Outpost

/-! ## 4. Steps -/

namespace Work

variable {now : Nat} {o : Outpost} {w : Work} {turn : Turn Outpost Work}

/-- The commands that a work gives in its next step. -/
def given : Work → List Command
  | .reporting _ (command :: _) _ _ => [command]
  | _ => []

/-- The commands that are written in the next step of a work. -/
def written (o : Outpost) : Work → List Command
  | .dialling lifetime _ => o.greeting lifetime
  | .retrying lifetime (.dialling _) => o.greeting lifetime
  | .reporting _ (command :: _) _ _ => Outpost.passed (o.send command).1 command
  | _ => []

/-- What becomes of an attempt to open a connection that fails. -/
def failing (now : Nat) (o : Outpost) : Work → Option (Turn Outpost Work)
  | .dialling _ _ => some (refuse o Consumer.unwritten)
  | .retrying lifetime (.dialling _) => some (.next o
      (.retrying lifetime (.pausing (now + o.consumer.settings.retryInterval.toNat))))
  | _ => none

/-- What becomes of a reader that finds that nothing more comes. -/
def losing (o : Outpost) (id : ConnectionId) (generation : Nat) : Turn Outpost Work :=
  let (o, works) := o.lose generation
  ⟨{ o with network := o.network.abandon id .caller }, none, works⟩

theorem failing_happens {sent : List Command} {c d : Consumer} {network : Network}
    (fails : failing now ⟨network, d⟩ w = some turn) (greets : c.Greets false sent d) :
    Happens (turn.incident (some w) [] sent c) := by
  cases w with
  | dialling lifetime limit =>
    cases fails
    exact .fails greets ⟨rfl, rfl, rfl, rfl, rfl, rfl⟩
  | retrying lifetime stage =>
    cases stage with
    | dialling limit =>
      cases fails
      exact .pauses greets ⟨rfl, rfl, rfl, rfl, rfl, rfl⟩
    | _ => cases fails
  | _ => cases fails

theorem losing_happens (o : Outpost) (id : ConnectionId) (generation : Nat) :
    Happens ((losing o id generation).incident (some (.reading id generation)) [] []
      o.consumer) :=
  .loses (o.lose_does generation)

/-- A step that leaves the connection as it is. -/
theorem still_happens {p : Outpost} {became : Option Work}
    (loop : w.isLoop = false) (goesOn : w ≠ .closing)
    (none : became.any isAttempt = false) (alike : o.consumer.Alike p.consumer) :
    Happens (Turn.incident ⟨p, became, []⟩ (some w) [] [] o.consumer) := by
  refine .still loop (by simpa using goesOn) ?_ (fun _ => List.not_mem_nil) alike
  cases became with
  | none => rfl
  | some w => simpa using none

theorem retry_happens {lifetime : Nat} {stage : Retry}
    (step : retry now o lifetime stage = some turn) :
    Happens (turn.incident (some (.retrying lifetime stage)) []
      ((Work.retrying lifetime stage).written o) o.consumer) := by
  cases stage with
  | opening =>
    cases step
    exact .retries ⟨rfl, rfl, rfl, rfl, rfl, rfl⟩
  | dialling limit =>
    have opens := o.openLink_opens lifetime
    simp only [retry] at step
    simp only [written]
    generalize o.openLink lifetime = opening at opens step
    generalize o.greeting lifetime = sent at opens ⊢
    cases opens with
    | opened greets =>
      cases step
      exact .reopens greets
    | failed greets =>
      cases step
      exact .pauses greets (.refl _)
    | refused =>
      cases step
      exact .retries (.refl _)
    | silence =>
      simp only [Option.ite_none_right_eq_some] at step
      obtain ⟨-, ⟨⟩⟩ := step
      exact .retries (.refl _)
    | ended =>
      cases step
      exact .ceases (.refl _)
  | pausing limit =>
    simp only [retry] at step
    split at step
    · cases step
      exact .ceases (.refl _)
    · simp only [Option.ite_none_right_eq_some] at step
      obtain ⟨-, ⟨⟩⟩ := step
      exact .retries (.refl _)

theorem dialling_happens {lifetime limit : Nat}
    (step : (Work.dialling lifetime limit).step now o = some turn) :
    Happens (turn.incident (some (.dialling lifetime limit)) [] (o.greeting lifetime)
      o.consumer) := by
  have opens := o.openLink_opens lifetime
  simp only [Work.step] at step
  generalize o.openLink lifetime = opening at opens step
  generalize o.greeting lifetime = sent at opens ⊢
  cases opens with
  | opened greets =>
    cases step
    exact .opens greets
  | failed greets =>
    cases step
    exact .fails greets ⟨rfl, rfl, rfl, rfl, rfl, rfl⟩
  | refused =>
    cases step
    exact still_happens rfl nofun rfl ⟨rfl, rfl, rfl, rfl, rfl, rfl⟩
  | silence =>
    simp only [Option.ite_none_right_eq_some] at step
    obtain ⟨-, ⟨⟩⟩ := step
    exact still_happens rfl nofun rfl ⟨rfl, rfl, rfl, rfl, rfl, rfl⟩
  | ended =>
    cases step
    exact still_happens rfl nofun rfl ⟨rfl, rfl, rfl, rfl, rfl, rfl⟩

theorem reading_happens {id : ConnectionId} {generation : Nat}
    (step : (Work.reading id generation).step now o = some turn) :
    Happens (turn.incident (some (.reading id generation)) [] [] o.consumer) := by
  simp only [Work.step] at step
  split at step
  · cases step
    exact still_happens rfl nofun rfl (.refl _)
  · split at step
    · next body network _ =>
      cases step
      unfold take
      split
      · exact .receives
      · exact losing_happens { o with network } id generation
    · next network _ =>
      cases step
      exact losing_happens { o with network } id generation
    · cases step

theorem reporting_happens {id : TaskId} {commands : List Command} {verdict : Verdict}
    {releases : Nat} (step : (Work.reporting id commands verdict releases).step now o = some turn) :
    Happens (turn.incident (some (.reporting id commands verdict releases))
      (Work.reporting id commands verdict releases).given
      ((Work.reporting id commands verdict releases).written o) o.consumer) := by
  cases commands with
  | cons command rest =>
    cases step
    exact Outpost.send_happens rfl
  | nil =>
    -- A report that ends counts one task less, which is no matter of the connection.
    have ends : Happens ((finish o).incident (some (.reporting id [] verdict releases)) [] []
        o.consumer) := by
      refine still_happens rfl nofun rfl ?_
      unfold Consumer.finish
      dsimp only
      split <;> exact ⟨rfl, rfl, rfl, rfl, rfl, rfl⟩
    cases verdict with
    | done =>
      cases step
      exact ends
    | failed =>
      cases step
      exact still_happens rfl nofun rfl (.refl _)
    | held =>
      simp only [Work.step, Option.ite_none_right_eq_some] at step
      obtain ⟨-, ⟨⟩⟩ := step
      exact ends

theorem watching_happens {lifetime limit : Nat}
    (step : (Work.watching lifetime limit).step now o = some turn) :
    Happens (turn.incident (some (.watching lifetime limit)) [] [] o.consumer) := by
  simp only [Work.step] at step
  split at step
  · cases step
    exact still_happens rfl nofun rfl (.refl _)
  · simp only [Option.ite_none_right_eq_some] at step
    obtain ⟨-, ⟨⟩⟩ := step
    split
    · exact still_happens rfl nofun rfl (.refl _)
    · next stands => exact .ticks (by simpa using stands) o.reconnect_does

theorem step_happens (step : w.step now o = some turn) :
    Happens (turn.incident (some w) w.given (w.written o) o.consumer) := by
  cases w with
  | connecting =>
    simp only [Work.step] at step
    split at step
    · cases step
      exact still_happens rfl nofun rfl (.refl _)
    · next rests =>
      cases step
      refine .connects (by simpa using rests) ?_
      unfold Consumer.start
      split <;> exact ⟨rfl, rfl, rfl, rfl, rfl, rfl⟩
  | dialling lifetime limit => exact dialling_happens step
  | connected result => cases step
  | retrying lifetime stage => exact retry_happens step
  | reading id generation => exact reading_happens step
  | arriving task =>
    cases step
    exact still_happens rfl nofun rfl ⟨rfl, rfl, rfl, rfl, rfl, rfl⟩
  | handling id reaction releases limit =>
    simp only [Work.step, Option.ite_none_right_eq_some] at step
    obtain ⟨-, ⟨⟩⟩ := step
    exact still_happens rfl nofun rfl (.refl _)
  | reporting id commands verdict releases => exact reporting_happens step
  | watching lifetime limit => exact watching_happens step
  | closing =>
    cases step
    exact .closes
  | draining =>
    simp only [Work.step, Option.ite_none_right_eq_some] at step
    obtain ⟨-, ⟨⟩⟩ := step
    exact still_happens rfl nofun rfl ⟨rfl, rfl, rfl, rfl, rfl, rfl⟩

end Work

end TaskQueue
