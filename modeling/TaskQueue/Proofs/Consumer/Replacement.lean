import TaskQueue.Proofs.Consumer.Links

/-!
# When a usable connection is replaced

An attempt to open a connection begins when there is none, but it does not look again when it opens
one. A reader that was not told to stop has the consumer reconnect even though there is a newer
connection.

Results:
1. `Happens.begins`: how an attempt begins.
2. `Run.began`: what has happened since an attempt began.
3. `Run.replaces_iff`: when a connection takes the place of another one.
-/

namespace TaskQueue

open Consumer

variable {c d : Consumer} {x y : Incident} {works : List Work} {w : Work} {generation : Nat}
  {h later : List Incident}

/-! ## 1. How an attempt begins -/

/-- A step that is due to a reader whose connection is not the current one. -/
def Incident.IsStale (x : Incident) : Prop :=
  ∃ id generation, x.work = some (.reading id generation) ∧ generation ≠ x.before.generation

/-- The step in which an attempt, or a loop of them, has begun. All that has happened since is
`later`. -/
def Incident.Begins (x : Incident) (later : List Incident) : Work → Prop
  | .dialling lifetime limit =>
    x.work = some .connecting ∧ x.became = some (.dialling lifetime limit)
  | .retrying lifetime _ =>
    .retrying lifetime .opening ∈ x.begun ∧ ∀ y ∈ x :: later, y.after.reconnecting = true
  | _ => False

theorem Incident.Begins.snoc (begins : x.Begins later w)
    (goesOn : w.isLoop = true → y.after.reconnecting = true) : x.Begins (later ++ [y]) w := by
  cases w with
  | dialling => exact begins
  | retrying lifetime stage =>
    obtain ⟨begun, always⟩ := begins
    refine ⟨begun, fun z member => ?_⟩
    rw [← List.cons_append] at member
    rcases List.mem_append.mp member with old | last
    · exact always z old
    · rw [List.mem_singleton.mp last]
      exact goesOn rfl
  | _ => cases begins

theorem Consumer.Reconnects.begins (reconnects : c.Reconnects d works) (member : w ∈ works) :
    w = .retrying c.lifetime .opening ∧ works = [w] ∧ d.reconnecting = true ∧ d.link = c.link := by
  cases reconnects with
  | idle => cases member
  | begin _ _ _ alike =>
    obtain rfl := List.mem_singleton.mp member
    exact ⟨rfl, rfl, alike.reconnecting, alike.link⟩

/-- A loop of attempts begins at the end of a step. -/
theorem Incident.Begins.of_reconnects {work became : Option Work} {accepted written : List Command}
    {before : Consumer} (reconnects : c.Reconnects d works) (member : w ∈ works) :
    Incident.Begins ⟨work, accepted, written, before, d, became, works⟩ [] w ∧
      d.link = c.link := by
  obtain ⟨rfl, begun, reconnecting, link⟩ := reconnects.begins member
  refine ⟨⟨member, fun y same => ?_⟩, link⟩
  obtain rfl := List.mem_singleton.mp same
  exact reconnecting

theorem not_attempt (quiet : works.any Work.isAttempt = false) (member : w ∈ works) :
    w.isAttempt ≠ true :=
  List.any_eq_false.mp quiet w member

/-- An attempt begins while there is no connection, unless it is due to a stale reader. -/
theorem Happens.begins (happens : Happens x) (member : w ∈ x.became.toList ++ x.begun)
    (attempt : w.isAttempt = true) :
    x.Begins [] w ∧ (x.Linked → x.IsStale) ∨
      ∃ lifetime stage stage', x.work = some (.retrying lifetime stage) ∧
        w = .retrying lifetime stage' := by
  unfold Incident.Linked
  cases happens with
  | still _ _ quiet _ _ => exact absurd attempt (not_attempt quiet member)
  | connects rests alike =>
    obtain rfl := List.mem_singleton.mp member
    refine .inl ⟨⟨rfl, rfl⟩, fun linked => ?_⟩
    rw [isRunning, ← alike.link, linked] at rests
    cases rests
  | retries =>
    obtain rfl := List.mem_singleton.mp member
    exact .inr ⟨_, _, _, rfl, rfl⟩
  | pauses =>
    obtain rfl := List.mem_singleton.mp member
    exact .inr ⟨_, _, _, rfl, rfl⟩
  | @waits _ _ _ command c d reports _ reconnects =>
    rcases List.mem_append.mp member with became | begun
    · exact absurd attempt (not_attempt_of_reporting reports (List.mem_append_right _ became))
    · obtain ⟨begins, link⟩ := Incident.Begins.of_reconnects reconnects begun
      refine .inl ⟨begins, fun linked => ?_⟩
      have offline : d.link = none := link.trans c.cut_link
      rw [offline] at linked
      cases linked
  | @loses id generation begun c d reconnects =>
    obtain ⟨begins, link⟩ := Incident.Begins.of_reconnects reconnects member
    refine .inl ⟨begins, fun linked => ⟨id, generation, rfl, fun own => ?_⟩⟩
    -- The current reader takes the connection with it.
    rw [link, drop, if_pos own.symm] at linked
    cases linked
  | @ticks _ _ _ begun c d rests reconnects =>
    rcases List.mem_cons.mp member with rfl | begun
    · cases attempt
    · obtain ⟨begins, link⟩ := Incident.Begins.of_reconnects reconnects begun
      refine .inl ⟨begins, fun linked => ?_⟩
      rw [isRunning, ← link, linked] at rests
      cases rests
  | receives => exact absurd attempt (not_attempt rfl member)
  | ceases => cases member
  | fails => exact absurd attempt (not_attempt rfl member)
  | opens => exact absurd attempt (not_attempt rfl member)
  | reopens => exact absurd attempt (not_attempt rfl member)
  | sends reports =>
    refine absurd attempt (not_attempt_of_reporting reports (List.mem_append_right _ ?_))
    simpa using member
  | refuses reports =>
    refine absurd attempt (not_attempt_of_reporting reports (List.mem_append_right _ ?_))
    simpa using member
  | closes => exact absurd attempt (not_attempt rfl member)

/-! ## 2. What has happened since -/

namespace Station

variable {start f g : Station}

/-- An attempt began at some moment of a history, and finds a connection if and only if one was
opened since, or a stale reader began the attempt though there was a connection, which stands. -/
def Began (h : List Incident) (c : Consumer) (w : Work) : Prop :=
  ∃ past y later, h = past ++ y :: later ∧ y.Begins later w ∧ (c.link.isSome = true ↔
    (y.IsStale ∧ y.Linked) ∧ (∀ z ∈ later, z.Linked) ∨ OpenedSince later)

theorem Began.now (begins : x.Begins [] w) (unlinked : x.Linked → x.IsStale) :
    Began (h ++ [x]) x.after w := by
  refine ⟨h, x, [], rfl, begins, ?_⟩
  constructor
  · exact fun linked => .inl ⟨⟨unlinked linked, linked⟩, by simp⟩
  · rintro (⟨⟨-, linked⟩, -⟩ | opened)
    · exact linked
    · exact absurd opened since_nil

theorem Began.snoc {v : Work} (began : Began h f.consumer v) (step : Step f x g)
    (same : ∀ y later, Incident.Begins y later v → y.Begins later w)
    (goesOn : w.isLoop = true → x.after.reconnecting = true) :
    Began (h ++ [x]) g.consumer w := by
  obtain ⟨past, y, later, rfl, begins, linked⟩ := began
  exact ⟨past, y, later ++ [x], by simp, (same y later begins).snoc goesOn,
    step.linked_iff linked⟩

theorem Run.began (new : New start) (run : Run start h f) (member : w ∈ f.works)
    (attempt : w.isAttempt = true) : Began h f.consumer w := by
  induction run generalizing w with
  | nil =>
    rw [new.works] at member
    cases member
  | @snoc h f g x earlier step ih =>
    have goesOn (loop : w.isLoop = true) : x.after.reconnecting = true := by
      rw [step.after]
      exact (earlier.snoc step).reconnecting new member loop
    obtain ⟨front, back, before, after⟩ := step.works
    have continued (old : w ∈ front ++ back) : Began (h ++ [x]) g.consumer w := by
      have under_way : w ∈ f.works := by
        rw [before, List.append_assoc]
        rcases List.mem_append.mp old with ahead | behind
        · exact List.mem_append_left _ ahead
        · exact List.mem_append_right _ (List.mem_append_right _ behind)
      exact (ih under_way attempt).snoc step (fun _ _ begins => begins) goesOn
    have fresh (begun : w ∈ x.became.toList ++ x.begun) : Began (h ++ [x]) g.consumer w := by
      rcases step.happens.begins begun attempt with
        ⟨begins, unlinked⟩ | ⟨lifetime, stage, stage', work, rfl⟩
      · rw [← step.after]
        exact .now begins unlinked
      · -- The next stage of a loop that was under way before this step.
        have under_way : .retrying lifetime stage ∈ f.works := by simp [before, work]
        exact (ih under_way rfl).snoc step (fun _ _ begins => begins) goesOn
    simp only [after, List.mem_append] at member
    rcases member with ((ahead | became) | behind) | begun
    · exact continued (List.mem_append_left _ ahead)
    · exact fresh (List.mem_append_left _ became)
    · exact continued (List.mem_append_right _ behind)
    · exact fresh (List.mem_append_right _ begun)

end Station

/-! ## 3. What is replaced -/

/-- A stale reader leaves the connection as it is, and has the consumer reconnect nevertheless. -/
theorem Outpost.lose_stale {o : Outpost} (stale : generation ≠ o.consumer.generation) :
    (o.lose generation).1.consumer.link = o.consumer.link ∧
      ((o.lose generation).2 = [.retrying o.consumer.lifetime .opening] ↔
        o.consumer.ended = false ∧ o.consumer.settings.retryInterval ≠ 0 ∧
          o.consumer.reconnecting = false) := by
  have reconnects := o.lose_does generation
  rw [drop, if_neg stale.symm] at reconnects
  generalize (o.lose generation).1.consumer = d at reconnects ⊢
  generalize (o.lose generation).2 = works at reconnects ⊢
  cases reconnects with
  | idle why alike =>
    refine ⟨alike.link, iff_of_false nofun ?_⟩
    rintro ⟨goesOn, may, rests⟩
    rcases why with ended | never | tries
    · rw [ended] at goesOn
      cases goesOn
    · exact may never
    · rw [tries] at rests
      cases rests
  | begin goesOn may rests alike => exact ⟨alike.link, iff_of_true rfl ⟨goesOn, may, rests⟩⟩

namespace Station

variable {start f g : Station}

/-- An attempt that opens a connection takes the place of a usable one if and only if another
attempt has opened that one since, or a stale reader began the attempt though the usable one was
there. The stale readers that were not told to stop are those of connections that were replaced
while they could be used, unless the consumer was closed; and the end of such a reader has the
consumer reconnect while there is a connection. -/
theorem Run.replaces_iff (new : New start) (run : Run start h f) :
    (∀ x g, Step f x g → x.Opens → ∃ w, x.work = some w ∧ ∃ past y later,
      h = past ++ y :: later ∧ y.Begins later w ∧ (x.before.link.isSome = true ↔
        (y.IsStale ∧ y.Linked) ∧ (∀ z ∈ later, z.Linked) ∨ OpenedSince later)) ∧
    (∀ generation, f.consumer.Stale generation ↔
      Since h (·.Replaces generation) (·.work ≠ some .closing)) ∧
    ∀ generation, f.consumer.Stale generation →
      (f.outpost.lose generation).1.consumer.link = f.consumer.link ∧
        ((f.outpost.lose generation).2 = [.retrying f.consumer.lifetime .opening] ↔
          f.consumer.ended = false ∧ f.consumer.settings.retryInterval ≠ 0 ∧
            f.consumer.reconnecting = false) := by
  refine ⟨fun x g step opens => ?_, fun generation => run.stale_iff new,
    fun generation stale => Outpost.lose_stale stale.2⟩
  obtain ⟨w, work, attempt⟩ := step.happens.relinks.attempt opens
  obtain ⟨front, back, before, -⟩ := step.works
  have began := run.began new (w := w) (by simp [before, work]) attempt
  rw [step.before]
  exact ⟨w, work, began⟩

/-- A command is given while the first connect is under way, and both attempts open a connection.
The reader of the first one then begins a third attempt, which replaces the second one as well. -/
theorem Run.replaces_iff_twice :
    let settings : ConsumerSettings := .standard
    let start : Station :=
      ⟨⟨.new [settings.hostAddress], .new settings fun _ => .prompt [] .done⟩, []⟩
    ∃ h f later f' x g, New start ∧ Run start h f ∧ f.consumer.link = some 1 ∧
      Since h (·.Replaces 1) (·.work ≠ some .closing) ∧
      (f.outpost.lose 1).1.consumer.link = some 1 ∧
      (f.outpost.lose 1).2 = [.retrying 0 .opening] ∧
      Run start (h ++ later) f' ∧ Step f' x g ∧ x.Opens ∧ x.before.link = some 1 ∧
      ∃ w, x.work = some w ∧ ∃ past y later', h ++ later = past ++ y :: later' ∧
        y.Begins later' w ∧
        ((y.IsStale ∧ y.Linked) ∧ (∀ z ∈ later', z.Linked) ∨ OpenedSince later') := by
  intro settings start
  have new : New start := ⟨⟨settings, _, rfl⟩, rfl⟩
  let middle := (start.follow 0 [.connect, .work 0, .give (.ack (.ofNat 1)), .work 1,
    .network (·.listen settings.hostAddress), .work 0, .work 1]).get (by decide +kernel)
  have run : Run start middle.1 middle.2 := .get _
  let last := (middle.2.follow 0 [.network (·.hangUp 0 .listener), .work 1, .work 3]).get
    (by decide +kernel)
  have more : Run middle.2 last.1 last.2 := .get _
  let opening := (last.2.act 0 (.work 3)).get (by decide +kernel)
  have step : Step last.2 opening.1 opening.2 := .get _
  have opens : opening.1.Opens := by
    unfold Incident.Opens
    decide +kernel
  have usable : opening.1.before.link = some 1 := by decide +kernel
  have checked : (middle.2.consumer.link = some 1 ∧ middle.2.consumer.lifetime = 0) ∧
      (1 ∈ middle.2.consumer.reading ∧ 1 ≠ middle.2.consumer.generation) ∧
      middle.2.consumer.ended = false ∧ middle.2.consumer.settings.retryInterval ≠ 0 ∧
      middle.2.consumer.reconnecting = false := by
    decide +kernel
  obtain ⟨⟨linked, first⟩, stale, free⟩ := checked
  obtain ⟨-, replaced, loses⟩ := run.replaces_iff new
  obtain ⟨stands, begins⟩ := loses 1 stale
  obtain ⟨w, work, past, y, later, split, began, place⟩ :=
    ((run.append more).replaces_iff new).1 opening.1 opening.2 step opens
  exact ⟨middle.1, middle.2, last.1, last.2, opening.1, opening.2, new, run, linked,
    (replaced 1).mp stale, stands.trans linked, first ▸ begins.mpr free, run.append more, step,
    opens, usable, w, work, past, y, later, split, began, place.mp (by rw [usable]; rfl)⟩

end Station

end TaskQueue
