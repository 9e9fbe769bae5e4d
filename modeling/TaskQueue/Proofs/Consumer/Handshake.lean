import TaskQueue.Consumer
import Mathlib.Data.List.Infix

/-!
# What a handshake sends

A handshake claims tasks, sends the buffered commands and asks for a task, over a line that may fail
at any command. To say what was sent, the line is given a log.

Results:
1. `handshake_unlogged`: the log changes nothing else.
2. `Greets.cases`: how far a handshake comes, and what it leaves.
3. `Greets.reports`: it sends every buffered report or leaves it in the buffer, and their order
   stays.
-/

namespace TaskQueue

/-- Whether a command reports on a task. The others ask for tasks. -/
def Command.isReport (command : Command) : Bool :=
  command.settles.isSome

variable {σ : Type} {write : σ → Command → Option σ} {line next : σ} {log : List Command}
  {command : Command} {commands : List Command} {c d : Consumer} {complete : Bool}

/-! ## 1. The log -/

/-- A line that keeps a log of what was written to it. -/
def logged (write : σ → Command → Option σ) (line : σ × List Command) (command : Command) :
    Option (σ × List Command) :=
  (write line.1 command).map fun next => (next, line.2 ++ [command])

/-- A line that fails after a number of commands. -/
def budget : Nat → Command → Option Nat
  | 0, _ => none
  | left + 1, _ => some left

theorem logged_some (written : write line command = some next) :
    logged write (line, log) command = some (next, log ++ [command]) := by
  rw [logged, written, Option.map_some]

theorem logged_none (failed : write line command = none) :
    logged write (line, log) command = none := by
  rw [logged, failed, Option.map_none]

theorem foldlM_logged : commands.foldlM (logged write) (line, log) =
    (commands.foldlM write line).map fun next => (next, log ++ commands) := by
  induction commands generalizing line log with
  | nil => simp
  | cons command rest ih =>
    cases written : write line command with
    | none => simp [logged_none written, written]
    | some next => simp [logged_some written, written, ih]

namespace Consumer

theorem replay_unlogged (log : List Command) : replay write line commands =
    ((replay (logged write) (line, log) commands).1,
      (replay (logged write) (line, log) commands).2.1) := by
  induction commands generalizing line log with
  | nil => rfl
  | cons command rest ih =>
    rw [replay, replay]
    split
    · exact ih log
    · cases written : write line command with
      | none => simp only [logged_none written]
      | some next =>
        simp only [logged_some written]
        exact ih (log ++ [command])

theorem handshake_unlogged (log : List Command) : c.handshake write line =
    ((c.handshake (logged write) (line, log)).1, (c.handshake (logged write) (line, log)).2.1,
      (c.handshake (logged write) (line, log)).2.2.1) := by
  unfold handshake
  rw [foldlM_logged]
  cases c.claims.foldlM write line with
  | none => rfl
  | some claimed =>
    simp only [Option.map_some]
    rw [replay_unlogged (log ++ c.claims)]
    obtain ⟨left, next, sent⟩ := replay (logged write) (claimed, log ++ c.claims) c.buffer
    cases left with
    | cons command rest => rfl
    | nil =>
      cases written : write next .ready with
      | none => simp only [written, logged_none written]
      | some last => simp only [written, logged_some written]

/-! ## 2. How far a handshake comes -/

theorem replay_reports :
    (replay (logged write) (line, log) commands).2.2.filter Command.isReport ++
        (replay (logged write) (line, log) commands).1.filter Command.isReport =
      log.filter Command.isReport ++ commands.filter Command.isReport := by
  induction commands generalizing line log with
  | nil => rfl
  | cons command rest ih =>
    rw [replay]
    split
    · next asks =>
      rw [ih, asks]
      rfl
    · cases written : write line command with
      | none => simp only [logged_none written]
      | some next =>
        simp only [logged_some written, ih, List.filter_append, List.append_assoc]
        rw [← List.filter_append, List.singleton_append]

/-- What is sent are some of the commands. -/
theorem replay_writes : ∃ rest, (replay (logged write) (line, log) commands).2.2 = log ++ rest ∧
    rest ⊆ commands := by
  induction commands generalizing line log with
  | nil => exact ⟨[], (List.append_nil log).symm, List.Subset.refl _⟩
  | cons command commands ih =>
    rw [replay]
    split
    · obtain ⟨rest, writes, within⟩ := @ih line log
      exact ⟨rest, writes, List.subset_cons_of_subset command within⟩
    · cases written : write line command with
      | none =>
        simp only [logged_none written]
        exact ⟨[], (List.append_nil log).symm, List.nil_subset _⟩
      | some next =>
        simp only [logged_some written]
        obtain ⟨rest, writes, within⟩ := @ih next (log ++ [command])
        exact ⟨command :: rest, by simp [writes], List.cons_subset_cons command within⟩

/-- What was not sent are the last of the commands. -/
theorem replay_suffix : (replay write line commands).1 <:+ commands := by
  induction commands generalizing line with
  | nil => exact List.suffix_rfl
  | cons command rest ih =>
    rw [replay]
    split
    · exact ih.trans (List.suffix_cons command rest)
    · split
      · exact ih.trans (List.suffix_cons command rest)
      · exact List.suffix_rfl

theorem claims_reports (c : Consumer) : c.claims.filter Command.isReport = [] := by
  unfold claims
  split <;> rfl

/-- A handshake over some line: whether all of it was sent, what was, and the consumer after it. -/
def Greets (c : Consumer) (complete : Bool) (sent : List Command) (d : Consumer) : Prop :=
  ∃ (σ : Type) (write : σ → Command → Option σ) (line last : σ) (result : Except Failure Unit),
    c.handshake (logged write) (line, []) = (result, d, last, sent) ∧ result.isOk = complete

theorem greets_handshake : c.Greets (c.handshake (logged write) (line, [])).1.isOk
    (c.handshake (logged write) (line, [])).2.2.2 (c.handshake (logged write) (line, [])).2.1 :=
  ⟨σ, write, line, _, _, rfl, rfl⟩

/-- A handshake fails at its first frame, or it writes the claim and some of what was to be written
after it, and then fails or is complete. -/
theorem Greets.cases (greets : c.Greets complete log d) :
    complete = false ∧ log = [] ∧ d = c ∨ ∃ rest left, log = c.claims ++ rest ∧
      rest ⊆ c.buffer ++ [.ready] ∧ left <:+ c.buffer ∧
      log.filter Command.isReport ++ left.filter Command.isReport =
        c.buffer.filter Command.isReport ∧
      (complete = false ∧ d = { c with buffer := left } ∨
        complete = true ∧ left = [] ∧ d = { c with buffer := [], active := [] }) := by
  obtain ⟨σ, write, line, last, result, shakes, rfl⟩ := greets
  unfold handshake at shakes
  rw [foldlM_logged] at shakes
  cases claims : c.claims.foldlM write line with
  | none =>
    rw [claims] at shakes
    cases shakes
    exact .inl ⟨rfl, rfl, rfl⟩
  | some claimed =>
    refine .inr ?_
    rw [claims, List.nil_append] at shakes
    have reports := @replay_reports σ write claimed c.claims c.buffer
    have suffix := @replay_suffix _ (logged write) (claimed, c.claims) c.buffer
    obtain ⟨rest, writes, replayed⟩ := @replay_writes σ write claimed c.claims c.buffer
    have within : rest ⊆ c.buffer ++ [.ready] := List.subset_append_of_subset_left _ replayed
    simp only [Option.map_some] at shakes
    generalize replay (logged write) (claimed, c.claims) c.buffer = outcome
      at shakes reports suffix writes
    obtain ⟨left, next, sent⟩ := outcome
    obtain rfl : sent = c.claims ++ rest := writes
    simp only [claims_reports, List.nil_append] at reports
    cases left with
    | cons command left =>
      cases shakes
      exact ⟨rest, _, rfl, within, suffix, reports, .inl ⟨rfl, rfl⟩⟩
    | nil =>
      cases written : write next .ready with
      | none =>
        simp only [logged_none written] at shakes
        cases shakes
        exact ⟨rest, [], rfl, within, suffix, reports, .inl ⟨rfl, rfl⟩⟩
      | some next =>
        simp only [logged_some written] at shakes
        cases shakes
        refine ⟨rest ++ [.ready], [], List.append_assoc .., ?_, suffix, ?_, .inr ⟨rfl, rfl, rfl⟩⟩
        · exact List.append_subset.mpr ⟨within, List.subset_append_right _ _⟩
        · -- The request for a task that ends a handshake is no report.
          have asks : [Command.ready].filter Command.isReport = [] := rfl
          rw [List.filter_append, asks, List.append_nil]
          exact reports

/-! ## 3. Reports -/

theorem Greets.reports (greets : c.Greets complete log d) :
    log.filter Command.isReport ++ d.buffer.filter Command.isReport =
      c.buffer.filter Command.isReport := by
  obtain ⟨-, rfl, rfl⟩ | ⟨-, left, -, -, -, kept, ⟨-, rfl⟩ | ⟨-, rfl, rfl⟩⟩ := greets.cases
  · rfl
  · exact kept
  · exact kept

theorem Greets.suffix (greets : c.Greets complete log d) : d.buffer <:+ c.buffer := by
  obtain ⟨-, -, rfl⟩ | ⟨-, left, -, -, suffix, -, ⟨-, rfl⟩ | ⟨-, rfl, rfl⟩⟩ := greets.cases
  · exact List.suffix_rfl
  · exact suffix
  · exact suffix

theorem Greets.buffer_eq_nil (greets : c.Greets true log d) : d.buffer = [] := by
  obtain ⟨⟨⟩, -, -⟩ | ⟨-, left, -, -, -, -, ⟨⟨⟩, -⟩ | ⟨-, -, rfl⟩⟩ := greets.cases
  rfl

/-- A handshake only changes the buffer and the tasks that the consumer works on. -/
theorem Greets.same (greets : c.Greets complete log d) :
    d = { c with buffer := d.buffer, active := d.active } := by
  obtain ⟨-, -, rfl⟩ | ⟨-, left, -, -, -, -, ⟨-, rfl⟩ | ⟨-, -, rfl⟩⟩ := greets.cases <;> rfl

end Consumer

end TaskQueue
