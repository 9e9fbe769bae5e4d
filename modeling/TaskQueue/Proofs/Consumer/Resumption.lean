import TaskQueue.Proofs.Consumer.Handshake

/-!
# A handshake goes on where the last one broke off

A line may fail at any frame of a handshake. What was sent of the buffer by then is gone from it, so
the next handshake, over another line, claims the tasks again and goes on with the rest.

Results:
1. `exists_takes`, `Takes.append`: every line takes some first frames of a handshake.
2. `replay_takes`: how far the buffered commands come.
3. `handshake_resumes`: what one handshake sends and leaves, for every number of frames that the
   line takes, and what many handshakes send together, of which the last one is complete.
-/

namespace TaskQueue

variable {σ : Type} {write : σ → Command → Option σ} {line last : σ} {k n : Nat}
  {log commands rest : List Command}

/-! ## 1. Lines that fail -/

/-- A line takes `k` of some commands, and fails at the next one if there is one. -/
def Takes (write : σ → Command → Option σ) (line : σ) (k : Nat) (commands : List Command)
    (last : σ) : Prop :=
  (commands.take k).foldlM write line = some last ∧
    ∀ command, commands[k]? = some command → write last command = none

theorem exists_takes (write : σ → Command → Option σ) (line : σ) (commands : List Command) :
    ∃ k last, k ≤ commands.length ∧ Takes write line k commands last := by
  induction commands generalizing line with
  | nil => exact ⟨0, line, Nat.le_refl 0, rfl, by simp⟩
  | cons command rest ih =>
    cases written : write line command with
    | none => exact ⟨0, line, Nat.zero_le _, rfl, by simpa using written⟩
    | some next =>
      obtain ⟨k, last, within, takes, fails⟩ := ih next
      refine ⟨k + 1, last, Nat.succ_le_succ within, ?_, by simpa using fails⟩
      simpa [written] using takes

/-- What a line takes of some commands and others behind them. -/
theorem Takes.append (takes : Takes write line k (commands ++ rest) last) :
    (k < commands.length ∧ Takes write line k commands last) ∨
      commands.length ≤ k ∧ ∃ middle, commands.foldlM write line = some middle ∧
        Takes write middle (k - commands.length) rest last := by
  obtain ⟨taken, fails⟩ := takes
  rcases Nat.lt_or_ge k commands.length with short | whole
  · rw [List.take_append_of_le_length (Nat.le_of_lt short)] at taken
    refine .inl ⟨short, taken, fun command next => fails command ?_⟩
    rwa [List.getElem?_append_left short]
  · rw [List.take_append, List.take_of_length_le whole, List.foldlM_append] at taken
    obtain ⟨middle, first, others⟩ := Option.bind_eq_some_iff.mp taken
    refine .inr ⟨whole, middle, first, others, fun command next => fails command ?_⟩
    rwa [List.getElem?_append_right whole]

/-- A line that takes only some of the commands fails at them. -/
theorem Takes.fails (takes : Takes write line k commands last) (short : k < commands.length) :
    commands.foldlM write line = none := by
  obtain ⟨taken, fails⟩ := takes
  have next : write last commands[k] = none := fails _ (List.getElem?_eq_getElem short)
  rw [← List.take_append_drop k commands, List.foldlM_append, taken,
    List.drop_eq_getElem_cons short]
  exact congrArg (· >>= (List.drop (k + 1) commands).foldlM write) next

theorem Takes.of_all (all : commands.foldlM write line = some last) :
    Takes write line commands.length commands last :=
  ⟨by rwa [List.take_length], by simp⟩

namespace Consumer

/-! ## 2. One handshake -/

/-- What is to be sent of the buffer. Requests for a task are not: they fold into the one that ends
the handshake. -/
def unsent (c : Consumer) : List Command :=
  c.buffer.filter (· ≠ .ready)

/-- The frames of a handshake. -/
def frames (c : Consumer) : List Command :=
  c.claims ++ (c.unsent ++ [.ready])

theorem claims_length (c : Consumer) : c.claims.length ≤ 1 := by
  unfold claims
  split <;> simp

/-- The buffered commands are sent as far as the line takes them, and the rest of them is left. -/
theorem replay_takes (takes : Takes write line k (commands.filter (· ≠ .ready)) last) :
    ∃ left, replay (logged write) (line, log) commands =
        (left, last, log ++ (commands.filter (· ≠ .ready)).take k) ∧
      left.filter (· ≠ .ready) = (commands.filter (· ≠ .ready)).drop k ∧
      (left = [] ↔ (commands.filter (· ≠ .ready)).length ≤ k) := by
  induction commands generalizing line log k with
  | nil =>
    obtain ⟨taken, -⟩ := takes
    simp only [List.filter_nil, List.take_nil, List.foldlM_nil, Option.pure_def,
      Option.some.injEq] at taken
    exact ⟨[], by simp [replay, taken], by simp, by simp⟩
  | cons command rest ih =>
    by_cases asks : command = .ready
    · rw [replay, if_pos asks, List.filter_cons_of_neg (by simpa using asks)] at *
      exact ih takes
    · rw [List.filter_cons_of_pos (by simpa using asks)] at takes ⊢
      rw [replay, if_neg asks]
      obtain ⟨taken, fails⟩ := takes
      cases k with
      | zero =>
        -- The line fails at this command.
        rw [List.take_zero, List.foldlM_nil] at taken
        obtain rfl : line = last := Option.some.inj taken
        rw [logged_none (fails command rfl)]
        exact ⟨command :: rest, by simp, by simp [asks], by simp⟩
      | succ k =>
        rw [List.take_succ_cons, List.foldlM_cons] at taken
        obtain ⟨next, written, taken⟩ := Option.bind_eq_some_iff.mp taken
        rw [logged_some written]
        obtain ⟨left, replayed, kept, empty⟩ := @ih next k (log ++ [command])
          ⟨taken, fun other next => fails other (by simpa using next)⟩
        exact ⟨left, by simp [replayed], by simpa using kept, by simpa using empty⟩

theorem take_frames {c : Consumer} (whole : c.claims.length ≤ k) : c.frames.take k =
    c.claims ++ (c.unsent ++ [Command.ready]).take (k - c.claims.length) := by
  rw [frames, List.take_append, List.take_of_length_le whole]

/-- What a handshake comes to that gets `k` frames through at most: how it ends, the consumer after
it, and what was sent. -/
structure Reaches (c : Consumer) (k : Nat) (result : Except Failure Unit) (d : Consumer)
    (sent : List Command) : Prop where
  sent : sent = c.frames.take k
  complete : c.frames.length ≤ k → result = .ok () ∧ d = { c with buffer := [], active := [] }
  broken : k < c.frames.length → result = .error (.transport "Write to producer failed") ∧
    (∃ buffer, d = { c with buffer }) ∧ d.unsent = c.unsent.drop (k - c.claims.length)

theorem handshake_reaches {c : Consumer} (takes : Takes write line k c.frames last) :
    c.Reaches k (c.handshake (logged write) (line, [])).1
      (c.handshake (logged write) (line, [])).2.1
      (c.handshake (logged write) (line, [])).2.2.2 := by
  have length : c.frames.length = c.claims.length + (c.unsent.length + 1) := by simp [frames]
  unfold handshake
  rw [foldlM_logged, List.nil_append]
  rcases takes.append with ⟨short, claims⟩ | ⟨whole, claimed, claims, takes⟩
  · -- The claim does not get through, and it is the first frame.
    have none : k = 0 := by have := c.claims_length; omega
    subst none
    rw [claims.fails short]
    exact ⟨rfl, fun enough => by omega, fun _ => ⟨rfl, ⟨c.buffer, rfl⟩, by simp⟩⟩
  rw [claims, Option.map_some]
  rcases takes.append with ⟨short, unsent⟩ | ⟨all, replayed, unsent, takes⟩
  · obtain ⟨left, replays, kept, empty⟩ := @replay_takes _ _ _ _ _ c.claims _ unsent
    have stuck : left ≠ [] := fun none => Nat.not_le_of_lt short (empty.mp none)
    obtain ⟨command, rest, rfl⟩ := List.exists_cons_of_ne_nil stuck
    simp only [replays]
    refine ⟨?_, fun enough => by omega, fun _ => ⟨rfl, ⟨_, rfl⟩, kept⟩⟩
    rw [take_frames whole, List.take_append_of_le_length (Nat.le_of_lt short)]
    rfl
  · obtain ⟨left, replays, kept, empty⟩ := @replay_takes _ _ _ _ _ c.claims _ (Takes.of_all unsent)
    obtain rfl : left = [] := empty.mpr (Nat.le_refl _)
    obtain ⟨taken, fails⟩ := takes
    simp only [replays, List.take_length]
    cases more : k - c.claims.length - c.unsent.length with
    | zero =>
      -- Nothing is missing but the request for a task.
      rw [more, List.take_zero, List.foldlM_nil] at taken
      obtain rfl : replayed = last := Option.some.inj taken
      have refused : write replayed .ready = none := fails .ready (by rw [more]; rfl)
      simp only [logged_none refused]
      refine ⟨?_, fun enough => by omega, fun _ => ⟨rfl, ⟨[], rfl⟩, ?_⟩⟩
      · rw [take_frames whole, List.take_append_of_le_length (by omega),
          List.take_of_length_le all]
        rfl
      · rw [List.drop_of_length_le all]
        rfl
    | succ extra =>
      have written : write replayed .ready = some last := by
        rw [more] at taken
        simpa using taken
      simp only [logged_some written]
      refine ⟨?_, fun _ => ⟨rfl, rfl⟩, fun short => by omega⟩
      rw [List.take_of_length_le (by omega), List.append_assoc]
      rfl

/-! ## 3. Many handshakes -/

variable {c d e : Consumer} {sent : List Command} {h : List (List Command)}

/-- A handshake of which all was sent, or only the first frames. -/
theorem Greets.reaches {complete : Bool} (greets : c.Greets complete sent d) :
    ∃ k result, result.isOk = complete ∧ c.Reaches k result d sent := by
  obtain ⟨σ, write, line, last, result, shakes, good⟩ := greets
  obtain ⟨k, reached, -, takes⟩ := exists_takes write line c.frames
  have reaches := handshake_reaches takes
  rw [shakes] at reaches
  exact ⟨k, result, good, reaches⟩

/-- Handshakes that were broken off, one after the other, each over a line of its own: what each of
them sent, and the consumer after the last one. -/
inductive BrokenOff (c : Consumer) : List (List Command) → Consumer → Prop
  | nil : BrokenOff c [] c
  | snoc {h : List (List Command)} {sent : List Command} {d e : Consumer} : BrokenOff c h d →
      d.Greets false sent e → BrokenOff c (h ++ [sent]) e

/-- What was sent begins with the claim, if anything was sent. -/
theorem Reaches.head {result : Except Failure Unit} (reaches : c.Reaches k result d sent)
    (nonempty : sent ≠ []) (active : c.active ≠ []) : sent.head? = some (.recover c.active) := by
  have claims : c.claims = [.recover c.active] := by simp [claims, active]
  rw [reaches.sent] at nonempty ⊢
  cases k with
  | zero => exact absurd List.take_zero nonempty
  | succ k => simp [frames, claims]

/-- What a handshake sent of the buffer, and what it left, is what was to be sent of it. -/
theorem Reaches.unsent {failure : Failure} (reaches : c.Reaches k (.error failure) d sent) :
    sent.drop c.claims.length ++ d.unsent = c.unsent ∧ d.active = c.active := by
  have length : c.frames.length = c.claims.length + (c.unsent.length + 1) := by simp [frames]
  have short : k < c.frames.length := by
    by_contra enough
    cases (reaches.complete (Nat.le_of_not_lt enough)).1
  obtain ⟨-, ⟨buffer, same⟩, left⟩ := reaches.broken short
  refine ⟨?_, by rw [same]⟩
  rw [left, reaches.sent, List.drop_take, frames, List.drop_left,
    List.take_append_of_le_length (by omega), List.take_append_drop]

theorem BrokenOff.resumes (brokenOff : c.BrokenOff h d) : d.active = c.active ∧
    h.flatMap (·.drop c.claims.length) ++ d.unsent = c.unsent ∧
    ∀ frames ∈ h, frames ≠ [] → c.active ≠ [] → frames.head? = some (.recover c.active) := by
  induction brokenOff with
  | nil => exact ⟨rfl, rfl, List.forall_mem_nil _⟩
  | @snoc h sent d e _ greets ih =>
    obtain ⟨active, earlier, heads⟩ := ih
    have claims : d.claims = c.claims := by rw [Consumer.claims, active, Consumer.claims]
    obtain ⟨k, result, failed, reaches⟩ := greets.reaches
    cases result with
    | ok _ => cases failed
    | error failure =>
      obtain ⟨parts, same⟩ := reaches.unsent
      refine ⟨same.trans active, ?_, List.forall_mem_append.mpr
        ⟨heads, List.forall_mem_singleton.mpr fun nonempty claimed => ?_⟩⟩
      · rw [List.flatMap_append, List.flatMap_singleton, ← claims, List.append_assoc, parts,
          claims, earlier]
      · rw [← active] at claimed ⊢
        exact reaches.head nonempty claimed

/-- A handshake sends the first frames, as many as the line takes. If the line takes all of them, it
succeeds and leaves nothing in the buffer and no task claimed. If not, it fails, the tasks are
claimed as before, and the commands left in the buffer are those that were not sent. Over any number
of handshakes that are broken off and one that is complete, every buffered command is sent once, in
order, and whatever a handshake sends begins with the claim. -/
theorem handshake_resumes (c : Consumer) :
    (∀ {σ : Type} (write : σ → Command → Option σ) (line : σ),
      (∃ k last, Takes write line k c.frames last) ∧
      ∀ k last, Takes write line k c.frames last →
        c.Reaches k (c.handshake write line).1 (c.handshake write line).2.1
          (c.handshake (logged write) (line, [])).2.2.2) ∧
    ∀ h d sent e, c.BrokenOff h d → d.Greets true sent e →
      (h ++ [sent]).flatMap (·.drop c.claims.length) = c.unsent ++ [.ready] ∧
      (∀ frames ∈ h ++ [sent], frames ≠ [] → c.active ≠ [] →
        frames.head? = some (.recover c.active)) ∧
      e.buffer = [] ∧ e.active = [] := by
  constructor
  · intro σ write line
    obtain ⟨k, last, -, takes⟩ := exists_takes write line c.frames
    refine ⟨⟨k, last, takes⟩, fun k last takes => ?_⟩
    rw [@handshake_unlogged σ write line c []]
    exact handshake_reaches takes
  · intro h d sent e brokenOff greets
    obtain ⟨active, earlier, heads⟩ := brokenOff.resumes
    have claims : d.claims = c.claims := by rw [Consumer.claims, active, Consumer.claims]
    obtain ⟨k, result, succeeded, reaches⟩ := greets.reaches
    cases result with
    | error _ => cases succeeded
    | ok _ =>
      have enough : d.frames.length ≤ k := by
        by_contra short
        cases (reaches.broken (Nat.lt_of_not_le short)).1
      obtain ⟨-, rfl⟩ := reaches.complete enough
      have all : sent.drop c.claims.length = d.unsent ++ [.ready] := by
        rw [reaches.sent, List.take_of_length_le enough, frames, claims, List.drop_left]
      refine ⟨?_, List.forall_mem_append.mpr
        ⟨heads, List.forall_mem_singleton.mpr fun nonempty claimed => ?_⟩, rfl, rfl⟩
      · rw [List.flatMap_append, List.flatMap_singleton, all, ← List.append_assoc, earlier]
      · rw [← active] at claimed ⊢
        exact reaches.head nonempty claimed

/-- A handshake over a line that fails at once, one over a line that takes two frames, and one that
is complete. -/
theorem handshake_resumes_third :
    let id (n : Nat) : TaskId := .ofNat n
    let c : Consumer := { Consumer.new .standard fun _ => .prompt [] .done with
      active := [id 1], buffer := [.ready, .ack (id 2), .ready, .nack (id 3) true] }
    ∃ d e, Takes budget 2 2 c.frames 0 ∧
      (c.handshake budget 2).1 = .error (.transport "Write to producer failed") ∧
      c.BrokenOff [[], [.recover [id 1], .ack (id 2)]] d ∧
      d.unsent = [.nack (id 3) true] ∧ d.active = [id 1] ∧
      d.Greets true [.recover [id 1], .nack (id 3) true, .ready] e ∧
      [Command.ack (id 2), .nack (id 3) true, .ready] = c.unsent ++ [.ready] ∧
      e.buffer = [] ∧ e.active = [] := by
  intro id c
  have takes : Takes budget 2 2 c.frames 0 := ⟨rfl, fun _ _ => rfl⟩
  have reaches := ((handshake_resumes c).1 budget 2).2 2 0 takes
  have broken := reaches.broken (by decide)
  let d := (c.handshake budget 2).2.1
  have first : c.BrokenOff [[]] c := BrokenOff.nil.snoc ⟨Nat, budget, 0, 0, _, rfl, rfl⟩
  have second : c.BrokenOff [[], [.recover [id 1], .ack (id 2)]] d :=
    first.snoc ⟨Nat, budget, 2, 0, _, rfl, rfl⟩
  have third : d.Greets true [.recover [id 1], .nack (id 3) true, .ready]
      { c with buffer := [], active := [] } := ⟨Nat, budget, 3, 0, _, rfl, rfl⟩
  obtain ⟨once, -, empty, inactive⟩ := (handshake_resumes c).2 _ _ _ _ second third
  exact ⟨d, _, takes, broken.1, second, broken.2.2, rfl, third, once, empty, inactive⟩

end Consumer

end TaskQueue
