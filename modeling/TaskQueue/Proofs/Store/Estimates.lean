import Mathlib.Algebra.Ring.Nat
import TaskQueue.Proofs.Store.Refusals

/-!
# The average duration of a kind of task

For each kind a store keeps a total, which stops growing at the largest number of 64 bits, and the
number of durations in it. Setting a duration replaces both.

Results:
1. `Timing.Counts`: the durations that count are the one that was set last and those added since.
2. `estimates_answer`: which requests change what is kept of a kind. `foldl_add`: a total that stops
   growing on the way is the whole sum, cut at the end.
3. `Run.estimates_exact`: the average of a kind in every run.
-/

namespace TaskQueue

/-! ## 1. The durations that count -/

/-- What a call says about the durations of a kind of task. -/
inductive Timing
  | add (ms : UInt64)
  | set (ms : UInt64)

/-- What a request says about the durations of a kind. Most say nothing. -/
def Request.timing (kind : String) : Request → Option Timing
  | .addDuration other ms => if other = kind then some (.add ms) else none
  | .setEstimate other ms => if other = kind then some (.set ms) else none
  | _ => none

namespace Timing

/-- The durations that count after some calls: all that were added, if none was set, or the one that
was set last and those that were added after it. -/
inductive Counts : List Timing → List UInt64 → Prop
  | added (ds : List UInt64) : Counts (ds.map .add) ds
  | since (before : List Timing) (ms : UInt64) (ds : List UInt64) :
      Counts (before ++ .set ms :: ds.map .add) (ms :: ds)

theorem Counts.add {calls : List Timing} {ds : List UInt64} (counts : Counts calls ds)
    (ms : UInt64) : Counts (calls ++ [.add ms]) (ds ++ [ms]) := by
  cases counts with
  | added =>
    have more := Counts.added (ds ++ [ms])
    rwa [List.map_append] at more
  | since before first ds =>
    have more := Counts.since before first (ds ++ [ms])
    rwa [List.map_append, ← List.cons_append, ← List.append_assoc] at more

theorem exists_counts (calls : List Timing) : ∃ ds, Counts calls ds := by
  induction calls using List.reverseRecOn with
  | nil => exact ⟨[], .added []⟩
  | append_singleton calls call ih =>
    obtain ⟨ds, counts⟩ := ih
    cases call with
    | add ms => exact ⟨ds ++ [ms], counts.add ms⟩
    | set ms => exact ⟨[ms], .since calls ms []⟩

theorem Counts.eq_nil_iff {calls : List Timing} {ds : List UInt64} (counts : Counts calls ds) :
    ds = [] ↔ calls = [] := by
  cases counts with
  | added => exact List.map_eq_nil_iff.symm
  | since => simp

/-- The sum of some durations. -/
def total (ds : List UInt64) : Nat :=
  (ds.map UInt64.toNat).sum

/-- What is kept of a kind after one more call. -/
def next (kept : Option Estimate) : Timing → Estimate
  | .add ms => (kept.getD ⟨0, 0⟩).add ms
  | .set ms => ⟨ms.toNat, 1⟩

end Timing

/-! ## 2. What is kept of a kind -/

namespace Contents

/-- A request changes what is kept of a kind if it says something about it. -/
theorem estimates_answer (c : Contents) (q : Request) (kind : String) :
    (c.answer q).2.estimates.get? kind =
      match q.timing kind with
      | some call => some (call.next (c.estimates.get? kind))
      | none => c.estimates.get? kind := by
  cases q with
  | remove id =>
    obtain ⟨tasks, index, taken⟩ := take_eq c id
    simp only [Contents.answer, Contents.remove, taken]
    rfl
  | removeByReference reference =>
    obtain ⟨tasks, index, taken⟩ := foldl_take_eq ((c.withReference reference).map Task.id) c
    simp only [Contents.answer, Contents.removeByReference, taken]
    rfl
  | queue batch =>
    rcases answer_queue c batch with ⟨id, -, refused⟩ | ⟨-, d, queues, queued⟩
    · rw [refused]
      rfl
    · obtain ⟨tasks, index, rfl⟩ := queues.rest
      rw [queued]
      rfl
  | setState task state =>
    simp only [Contents.answer, Contents.setState]
    cases c.tasks.get? task.id with
    | none => rfl
    | some stored =>
      obtain ⟨tasks, index, put⟩ := put_eq c { task with state, order := stored.order }
      simp only [put]
      rfl
  | addDuration other ms =>
    simp only [Contents.answer, addDuration, Table.get?_insert, Request.timing, eq_comm (a := kind)]
    split
    · next same => rw [same]; rfl
    · rfl
  | setEstimate other ms =>
    simp only [Contents.answer, setEstimate, Table.get?_insert, Request.timing, eq_comm (a := kind)]
    split <;> rfl
  | _ => rfl

/-- So after some requests it is what the calls about the kind make of it. -/
theorem estimates_apply (c : Contents) (requests : List Request) (kind : String) :
    (c.apply requests).estimates.get? kind = (requests.filterMap (·.timing kind)).foldl
      (fun kept call => some (call.next kept)) (c.estimates.get? kind) := by
  induction requests generalizing c with
  | nil => rfl
  | cons q rest ih =>
    rw [apply, List.foldl_cons, ← apply, ih, estimates_answer, List.filterMap_cons]
    cases q.timing kind <;> rfl

end Contents

/-- A total that stops growing on the way is the whole sum, cut at the end. -/
theorem Timing.foldl_add (sum samples : Nat) (ds : List UInt64) :
    (ds.map Timing.add).foldl (fun kept call => some (call.next kept))
        (some ⟨min sum Estimate.ceiling, samples⟩) =
      some ⟨min (sum + Timing.total ds) Estimate.ceiling, samples + ds.length⟩ := by
  induction ds generalizing sum samples with
  | nil => rfl
  | cons ms ds ih =>
    have cut : min (min sum Estimate.ceiling + ms.toNat) Estimate.ceiling =
        min (sum + ms.toNat) Estimate.ceiling := by omega
    have step : Timing.next (some ⟨min sum Estimate.ceiling, samples⟩) (.add ms) =
        ⟨min (sum + ms.toNat) Estimate.ceiling, samples + 1⟩ := by
      rw [← cut]
      rfl
    have sum_cons : Timing.total (ms :: ds) = ms.toNat + Timing.total ds := List.sum_cons
    rw [List.map_cons, List.foldl_cons, step, ih, sum_cons, List.length_cons, Nat.add_assoc,
      Nat.add_assoc, Nat.add_comm 1]

/-- Nothing is kept of a kind without durations that count, and of any other kind their sum, cut at
the largest number of 64 bits, and how many they are. -/
theorem Timing.Counts.kept {calls : List Timing} {ds : List UInt64} (counts : Counts calls ds) :
    calls.foldl (fun kept call => some (call.next kept)) none =
      if ds = [] then none else some ⟨min (Timing.total ds) Estimate.ceiling, ds.length⟩ := by
  have fits (ms : UInt64) : ms.toNat ≤ Estimate.ceiling := Nat.le_sub_one_of_lt ms.toNat_lt
  have first (ms : UInt64) (ds : List UInt64) :
      (ds.map Timing.add).foldl (fun kept call => some (call.next kept)) (some ⟨ms.toNat, 1⟩) =
        some ⟨min (Timing.total (ms :: ds)) Estimate.ceiling, (ms :: ds).length⟩ := by
    have sums := foldl_add ms.toNat 1 ds
    rwa [Nat.min_eq_left (fits ms), Nat.add_comm 1] at sums
  cases counts with
  | added =>
    cases ds with
    | nil => rfl
    | cons ms ds =>
      have start : Timing.next none (.add ms) = ⟨ms.toNat, 1⟩ := by
        simp [Timing.next, Estimate.add, fits ms]
      rw [List.map_cons, List.foldl_cons, start, first, if_neg (List.cons_ne_nil ms ds)]
  | since before ms ds =>
    rw [List.foldl_append, List.foldl_cons, if_neg (List.cons_ne_nil ms ds)]
    exact first ms ds

/-! ## 3. Runs -/

namespace Store

variable {s : Store} {h : History} {settings : StoreSettings}

/-- The requests that made what a view shows. -/
def History.shown (h : History) : View → List Request
  | none => h.serial
  | some id => if h.isOpen id then h.requests (some id) else h.serial

theorem Run.seen_shown (run : Run (.new settings) h s) (view : View) :
    s.seen view = Contents.empty.apply (h.shown view) := by
  have seen := (tracks_run rfl run).seen view
  rw [seen]
  cases view with
  | none => rfl
  | some id =>
    rw [History.seen, History.shown]
    split
    · rw [History.requests, Contents.apply_append]
      rfl
    · rfl

/-- Whatever happens at a store, the estimate of a kind is zero if no call about the kind was
committed, and otherwise the average of the durations that count after those calls, rounded down. It
is their sum, or the largest number of 64 bits if the sum is greater, divided by their number, which
is not zero. In an open section the section's own calls come after those that were committed. -/
theorem Run.estimates_exact (run : Run (.new settings) h s) (view : View) (kind : String) :
    let calls := (h.shown view).filterMap (·.timing kind)
    (∃ ds, Timing.Counts calls ds) ∧ ∀ ds, Timing.Counts calls ds →
      (calls = [] → s.request view (.estimate kind) = (.ok (0 : Nat), s)) ∧
      (calls ≠ [] → ds.length ≠ 0 ∧ s.request view (.estimate kind) =
        (.ok (min (Timing.total ds) (UInt64.size - 1) / ds.length : Nat), s)) ∧
      ∀ kept, (s.seen view).estimates.get? kind = some kept → kept.samples ≠ 0 := by
  intro calls
  refine ⟨Timing.exists_counts calls, fun ds counts => ?_⟩
  have kept : (s.seen view).estimates.get? kind =
      if ds = [] then none else some ⟨min (Timing.total ds) Estimate.ceiling, ds.length⟩ := by
    rw [run.seen_shown, Contents.estimates_apply]
    exact counts.kept
  have answer : s.request view (.estimate kind) = (.ok ((s.seen view).estimate kind), s) :=
    request_read rfl view
  have several (more : ds ≠ []) : ds.length ≠ 0 :=
    fun zero => more (List.eq_nil_of_length_eq_zero zero)
  rw [answer, Contents.estimate, kept]
  refine ⟨fun nothing => ?_, fun something => ?_, fun kept same => ?_⟩
  · rw [if_pos (counts.eq_nil_iff.mpr nothing)]
  · have more : ds ≠ [] := mt counts.eq_nil_iff.mp something
    refine ⟨several more, ?_⟩
    rw [if_neg more]
    simp only [Estimate.average, several more, if_false]
    rfl
  · split at same
    · cases same
    · next more =>
      cases same
      exact several more

/-- A section sets the largest duration and adds to it, beside one of another kind. A second section
is rolled back. -/
theorem Run.estimates_exact_capped :
    let most : UInt64 := 18446744073709551615
    let h : History := [.outside (.addDuration "mail" 10) (.ok ()), .begin (.ok 0),
      .inside 0 (.setEstimate "mail" most) (.ok ()), .inside 0 (.addDuration "post" 7) (.ok ()),
      .inside 0 (.addDuration "mail" 5) (.ok ()), .ended 0 .commit, .begin (.ok 1),
      .inside 1 (.addDuration "mail" 100) (.ok ()), .ended 1 .rollback]
    ∃ s, Run (.new .inMemory) h s ∧
      (h.shown none).filterMap (·.timing "mail") = [.add 10, .set most, .add 5] ∧
      Timing.Counts [.add 10, .set most, .add 5] [most, 5] ∧
      s.request none (.estimate "mail") = (.ok (9223372036854775807 : Nat), s) ∧
      (h.shown none).filterMap (·.timing "call") = [] ∧
      s.request none (.estimate "call") = (.ok (0 : Nat), s) := by
  intro most h
  have ran : ∃ s, Run (.new .inMemory) h s :=
    ⟨_, (((((((((Run.nil.snoc (.outside rfl)).snoc (.begin rfl)).snoc (.inside rfl rfl)).snoc
      (.inside rfl rfl)).snoc (.inside rfl rfl)).snoc (.commit rfl)).snoc (.begin rfl)).snoc
      (.inside rfl rfl)).snoc (.rollback rfl))⟩
  obtain ⟨s, run⟩ := ran
  have calls : (h.shown none).filterMap (·.timing "mail") = [.add 10, .set most, .add 5] := rfl
  have noCalls : (h.shown none).filterMap (·.timing "call") = [] := rfl
  have counts : Timing.Counts [.add 10, .set most, .add 5] [most, 5] := .since [.add 10] most [5]
  obtain ⟨-, averages⟩ := run.estimates_exact none "mail"
  rw [calls] at averages
  obtain ⟨-, average, -⟩ := averages [most, 5] counts
  have half : min (Timing.total [most, 5]) (UInt64.size - 1) / [most, 5].length =
      9223372036854775807 := by decide +kernel
  have mail := (average (List.cons_ne_nil _ _)).2
  rw [half] at mail
  obtain ⟨⟨ds, counts'⟩, nothing⟩ := run.estimates_exact none "call"
  obtain ⟨zero, -, -⟩ := nothing ds counts'
  exact ⟨s, run, calls, counts, mail, noCalls, zero noCalls⟩

end Store

end TaskQueue
