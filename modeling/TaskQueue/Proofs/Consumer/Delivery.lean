import TaskQueue.Proofs.Consumer.Station

/-!
# Commands of a consumer reach the connection in order

A command is written at once, or it waits in the buffer for the next connection. Over all
connections, with handshakes that fail at any command, no report is lost, written twice or
overtaken.

Results:
1. `Happens.orderly`: nothing waits while there is a connection.
2. `Happens.reports`: what a step writes and leaves in the buffer is what was in the buffer and was
   given.
3. `Run.delivers`: the same for a run.
-/

namespace TaskQueue

variable {c d : Consumer} {works : List Work} {command : Command} {x : Incident}

namespace Consumer

/-- Only commands that may wait are in the buffer, and none while there is a connection. -/
structure Orderly (c : Consumer) : Prop where
  bufferable : ∀ command ∈ c.buffer, command.isBufferable = true
  connected : c.link.isSome = true → c.buffer = []

theorem Orderly.congr (orderly : c.Orderly) (link : d.link = c.link)
    (buffer : d.buffer = c.buffer) : d.Orderly := by
  refine ⟨?_, ?_⟩
  · rw [buffer]
    exact orderly.bufferable
  · rw [link, buffer]
    exact orderly.connected

theorem Alike.orderly (alike : c.Alike d) (orderly : c.Orderly) : d.Orderly :=
  orderly.congr alike.link alike.buffer

theorem unlinked_buffer (same : d = c ∨ d = c.unlink) : d.buffer = c.buffer := by
  rcases same with rfl | rfl <;> rfl

end Consumer

open Consumer

/-! ## 1. The buffer and the connection -/

theorem Consumer.Orderly.offline (bufferable : ∀ command ∈ c.buffer, command.isBufferable = true)
    (offline : c.link = none) : c.Orderly :=
  ⟨bufferable, by simp [offline]⟩

theorem Consumer.Greets.bufferable {complete : Bool} {sent : List Command}
    (greets : c.Greets complete sent d) (orderly : c.Orderly) :
    ∀ command ∈ d.buffer, command.isBufferable = true :=
  fun command member => orderly.bufferable command (greets.suffix.subset member)

theorem Consumer.Greets.orderly {complete : Bool} {sent : List Command}
    (greets : c.Greets complete sent d) (orderly : c.Orderly) : d.Orderly := by
  refine ⟨greets.bufferable orderly, fun connected => ?_⟩
  rw [greets.same] at connected
  have empty := orderly.connected connected
  exact List.suffix_nil.mp (empty ▸ greets.suffix)

theorem Consumer.Orderly.drop (orderly : c.Orderly) (generation : Nat) :
    (c.drop generation).Orderly := by
  unfold Consumer.drop
  split
  · exact .offline orderly.bufferable rfl
  · exact orderly

theorem Happens.orderly (happens : Happens x) (before : x.before.Orderly) : x.after.Orderly := by
  cases happens with
  | still _ _ _ _ alike => exact alike.orderly before
  | receives => exact before.congr rfl rfl
  | connects _ alike => exact alike.orderly before
  | retries alike => exact alike.orderly before
  | ceases alike => exact alike.orderly (before.congr rfl rfl)
  | fails greets alike => exact alike.orderly (greets.orderly before)
  | pauses greets alike => exact alike.orderly (greets.orderly before)
  | opens greets => exact ⟨greets.bufferable before, fun _ => greets.buffer_eq_nil⟩
  | reopens greets => exact ⟨greets.bufferable before, fun _ => greets.buffer_eq_nil⟩
  | @sends _ _ command c =>
    obtain ⟨active, same⟩ := c.sent_eq command
    exact before.congr (by rw [same]) (by rw [same])
  | @waits _ _ _ command c d _ may reconnects =>
    have cut : (c.cut.postpone command).Orderly := by
      refine .offline (fun other member => ?_) c.cut_link
      rcases List.mem_append.mp member with earlier | last
      · exact before.bufferable other (unlinked_buffer c.cut_cases ▸ earlier)
      · rwa [List.mem_singleton.mp last]
    exact cut.congr reconnects.alike.link reconnects.alike.buffer
  | @refuses _ _ _ c =>
    refine .offline ?_ c.cut_link
    dsimp only
    rw [unlinked_buffer c.cut_cases]
    exact before.bufferable
  | loses reconnects => exact (before.drop _).congr reconnects.alike.link reconnects.alike.buffer
  | ticks _ reconnects => exact before.congr reconnects.alike.link reconnects.alike.buffer
  | closes => exact .offline before.bufferable rfl

/-! ## 2. Reports -/

/-- Only a claim may not wait, and it is no report. -/
theorem Command.isBufferable_of_isReport (report : command.isReport = true) :
    command.isBufferable = true := by
  cases command with
  | recover => cases report
  | _ => rfl

theorem filter_isReport_same (same : d.buffer = c.buffer) :
    [].filter Command.isReport ++ d.buffer.filter Command.isReport =
      c.buffer.filter Command.isReport ++ [].filter Command.isReport := by
  rw [same, List.filter_nil, List.nil_append, List.append_nil]

theorem Happens.reports (happens : Happens x) (orderly : x.before.Orderly) :
    x.written.filter Command.isReport ++ x.after.buffer.filter Command.isReport =
      x.before.buffer.filter Command.isReport ++ x.accepted.filter Command.isReport := by
  cases happens with
  | still _ _ _ _ alike => exact filter_isReport_same alike.buffer
  | receives => exact filter_isReport_same rfl
  | connects _ alike => exact filter_isReport_same alike.buffer
  | retries alike => exact filter_isReport_same alike.buffer
  | ceases alike => exact filter_isReport_same alike.buffer
  | fails greets alike => simpa [alike.buffer] using greets.reports
  | pauses greets alike => simpa [alike.buffer] using greets.reports
  | opens greets => simpa [install] using greets.reports
  | reopens greets => simpa [install] using greets.reports
  | @sends _ _ command c _ connected =>
    -- The command overtakes nothing: nothing waits while there is a connection.
    obtain ⟨active, same⟩ := c.sent_eq command
    have empty : c.buffer = [] := orderly.connected connected
    simp [same, empty]
  | @waits _ _ _ command c d _ _ reconnects =>
    have buffer : d.buffer = c.buffer ++ [command] := by
      have same := reconnects.alike.buffer
      simpa [postpone, unlinked_buffer c.cut_cases] using same
    simp [buffer]
  | @refuses _ _ command c _ never =>
    have other : command.isReport = false := by
      by_contra report
      rw [Command.isBufferable_of_isReport (by simpa using report)] at never
      cases never
    simp [unlinked_buffer c.cut_cases, other]
  | @loses _ generation _ c d reconnects =>
    exact filter_isReport_same
      (reconnects.alike.buffer.trans (unlinked_buffer (c.drop_cases generation)))
  | ticks _ reconnects => exact filter_isReport_same reconnects.alike.buffer
  | closes => exact filter_isReport_same rfl

/-! ## 3. Runs -/

namespace Station

variable {start f : Station} {h : List Incident}

/-- The commands written in a history, over all connections. -/
def written (h : List Incident) : List Command :=
  h.flatMap Incident.written

/-- The commands given in a history. -/
def accepted (h : List Incident) : List Command :=
  h.flatMap Incident.accepted

theorem New.orderly (new : New start) : start.consumer.Orderly := by
  obtain ⟨settings, handler, fresh⟩ := new.consumer
  rw [fresh]
  exact .offline nofun rfl

theorem Run.orderly (new : New start) (run : Run start h f) : f.consumer.Orderly := by
  induction run with
  | nil => exact new.orderly
  | snoc _ step ih =>
    rw [← step.after]
    exact step.happens.orderly (step.before ▸ ih)

theorem Run.reports (new : New start) (run : Run start h f) :
    (written h).filter Command.isReport ++ f.consumer.buffer.filter Command.isReport =
      (accepted h).filter Command.isReport := by
  induction run with
  | nil =>
    obtain ⟨settings, handler, fresh⟩ := new.consumer
    rw [fresh]
    rfl
  | @snoc h f g x earlier step ih =>
    have orderly := step.before ▸ earlier.orderly new
    have now := step.happens.reports orderly
    rw [step.before, step.after] at now
    simp only [written, accepted, List.flatMap_append, List.flatMap_singleton, List.filter_append]
    calc ((h.flatMap Incident.written).filter Command.isReport ++
            x.written.filter Command.isReport) ++ g.consumer.buffer.filter Command.isReport
        = (h.flatMap Incident.written).filter Command.isReport ++
            (f.consumer.buffer.filter Command.isReport ++ x.accepted.filter Command.isReport) := by
          rw [List.append_assoc, now]
      _ = (h.flatMap Incident.accepted).filter Command.isReport ++
            x.accepted.filter Command.isReport := by
          rw [← List.append_assoc]
          exact congrArg (· ++ x.accepted.filter Command.isReport) ih

end Station

end TaskQueue
