import Mathlib.Data.List.Chain
import TaskQueue.Proofs.Engine.Seeking

/-!
# Attempts after a deadline

Whoever acquires with a deadline looks at the time when an attempt has found nothing, but not when
an attempt is put off because something stayed locked for too long. So an attempt that begins at the
deadline or later is the last one if it is made, and is made again, however late it is by then, if
it is put off.

Results:
1. `Seeker.Quest.punctual`: what follows what in a quest with a deadline.
2. `Seeker.Quest.put_off`: while a section stays open there are as many late attempts as there is
   time for.
3. `Seeker.Quest.overruns_iff`: more than one attempt begins late if and only if one that began late
   was put off.
-/

namespace TaskQueue

namespace Acquirer

namespace Doing

def isBegin : Doing → Bool
  | .begins => true
  | _ => false

/-- Whether an attempt is to be made again: its section could not be opened in time, or a request of
it had to wait for too long. -/
def putsOff : Doing → Bool
  | .refused => true
  | .attempts (.error (.lockTimeout _)) => true
  | _ => false

/-- What leads to another attempt is neither the beginning of one nor the end, and it is no attempt
that has an outcome. -/
theorem of_again {x : Doing} (before : x.putsOff = true ∨ ∃ event, x = .hears event) :
    x ≠ .begins ∧ x ≠ .leaves ∧ ∀ result, x = .attempts result → x.putsOff = true := by
  rcases before with off | ⟨event, rfl⟩
  · refine ⟨?_, ?_, fun _ _ => off⟩
    all_goals
      rintro rfl
      cases off
  · exact ⟨by rintro ⟨⟩, by rintro ⟨⟩, by rintro _ ⟨⟩⟩

end Doing

/-- An attempt begins at a deadline or later. -/
def Deed.late (deadline : Nat) (x : Deed) : Bool :=
  x.doing.isBegin && deadline ≤ x.time

/-! ## 1. What follows what -/

/-- What may follow a deed, with a deadline. -/
inductive Deed.Next (deadline : Nat) (x y : Deed) : Prop
  | putOff : x.doing = .begins → y.doing.putsOff = true → Next deadline x y
  | made {result : Except Failure (Option Task)} : x.doing = .begins →
      y.doing = .attempts result → Next deadline x y
  /-- An attempt that was put off, or a wait that is over, leads to the next attempt. -/
  | again : x.doing.putsOff = true ∨ (∃ event, x.doing = .hears event) →
      y.doing = .begins ∨ y.doing = .leaves → Next deadline x y
  /-- Only someone with time left waits. -/
  | waits : x.doing = .attempts (.ok none) → x.time < deadline → y.doing.isBegin = false →
      Next deadline x y

namespace Deed

variable {deadline : Nat} {x y : Deed}

theorem late_iff : x.late deadline = true ↔ x.doing = .begins ∧ deadline ≤ x.time := by
  cases doing : x.doing <;> simp [late, doing, Doing.isBegin]

theorem Next.of_begins (next : x.Next deadline y) (begins : x.doing = .begins) :
    y.doing.putsOff = true ∨ ∃ result, y.doing = .attempts result := by
  cases next with
  | putOff _ off => exact .inl off
  | made _ made => exact .inr ⟨_, made⟩
  | again before => exact absurd begins (Doing.of_again before).1
  | waits found =>
    rw [begins] at found
    cases found

theorem Next.of_putsOff (next : x.Next deadline y) (off : x.doing.putsOff = true) :
    y.doing = .begins ∨ y.doing = .leaves := by
  cases next with
  | putOff begins | made begins =>
    rw [begins] at off
    cases off
  | again _ after => exact after
  | waits found =>
    rw [found] at off
    cases off

/-- Something follows an attempt that was made only if it was in time. -/
theorem Next.of_made {result : Except Failure (Option Task)} (next : x.Next deadline y)
    (made : x.doing = .attempts result) (kept : x.doing.putsOff = false) : x.time < deadline := by
  cases next with
  | putOff begins | made begins =>
    rw [begins] at made
    cases made
  | again before =>
    have off := (Doing.of_again before).2.2 _ made
    rw [kept] at off
    cases off
  | waits _ early => exact early

theorem Next.not_leaves (next : x.Next deadline y) : x.doing ≠ .leaves := by
  intro leaves
  cases next with
  | putOff before | made before | waits before =>
    rw [leaves] at before
    cases before
  | again before => exact (Doing.of_again before).2.1 leaves

end Deed

/-- Where someone who acquires stands after the last deed, with a deadline. -/
inductive Stage.Follows (deadline : Nat) : Option Deed → Stage → Prop
  | fresh : Follows deadline none .trying
  | again {x : Deed} : x.doing.putsOff = true ∨ (∃ event, x.doing = .hears event) →
      Follows deadline (some x) .trying
  | begun {x : Deed} {limit : Nat} : x.doing = .begins → Follows deadline (some x) (.entering limit)
  | waits {x : Deed} {limit : Nat} : x.doing = .attempts (.ok none) → x.time < deadline →
      Follows deadline (some x) (.waiting limit)
  /-- In time, an attempt that finds nothing may also end with the closing of the queue. -/
  | made {x : Deed} {result final : Except Failure (Option Task)} : x.doing = .attempts result →
      x.doing.putsOff = false → (deadline ≤ x.time → final = result) →
      Follows deadline (some x) (.finished final)
  | heard {x : Deed} {final : Except Failure (Option Task)} :
      (∃ event, x.doing = .hears event) ∨ x.doing = .leaves →
      Follows deadline (some x) (.finished final)

variable {deadline : Nat} {a : Acquirer}

namespace Stage.Follows

variable {x : Deed} {stage : Stage}

theorem of_putsOff (follows : Follows deadline (some x) stage) (off : x.doing.putsOff = true) :
    stage = .trying := by
  cases follows with
  | again => rfl
  | begun before | waits before =>
    rw [before] at off
    cases off
  | made _ kept =>
    rw [kept] at off
    cases off
  | heard before =>
    rcases before with ⟨event, hears⟩ | leaves
    · rw [hears] at off
      cases off
    · rw [leaves] at off
      cases off

/-- An attempt that is over late is the last one. -/
theorem of_made {result : Except Failure (Option Task)} (follows : Follows deadline (some x) stage)
    (attempts : x.doing = .attempts result) (kept : x.doing.putsOff = false)
    (late : deadline ≤ x.time) : stage = .finished result := by
  cases follows with
  | again before =>
    have off := (Doing.of_again before).2.2 _ attempts
    rw [kept] at off
    cases off
  | begun before =>
    rw [before] at attempts
    cases attempts
  | waits _ early => exact absurd late (Nat.not_le_of_lt early)
  | made same _ final =>
    rw [same] at attempts
    cases attempts
    rw [final late]
  | heard before =>
    rcases before with ⟨event, hears⟩ | leaves
    · rw [hears] at attempts
      cases attempts
    · rw [leaves] at attempts
      cases attempts

end Stage.Follows

/-- What follows an attempt that had its section. -/
theorem answered_follows (now : Nat) (e : Engine) (own : a.deadline = some deadline)
    (result : Except Failure (Option Task)) (before after : Contents) :
    Stage.Follows deadline (some ⟨now, .attempts result, before, after⟩)
      (a.answered now e result).stage := by
  cases result with
  | ok choice =>
    cases choice with
    | some task => exact .made rfl rfl fun _ => rfl
    | none =>
      simp only [answered, afterMiss, own]
      split
      · exact .made rfl rfl fun _ => rfl
      next early =>
      split
      · exact .made rfl rfl fun late => absurd late early
      · exact .waits rfl (Nat.lt_of_not_le early)
  | error failure =>
    cases failure with
    | lockTimeout => exact .again (.inl rfl)
    | _ => exact .made rfl rfl fun _ => rfl

theorem afterMiss_stage (now : Nat) (e : Engine) (a : Acquirer) :
    ∃ stage, a.afterMiss now e = { a with stage } := by
  unfold afterMiss
  split
  · split
    · exact ⟨_, rfl⟩
    split <;> exact ⟨_, rfl⟩
  · split <;> exact ⟨_, rfl⟩

/-- An attempt decides only where someone who acquires stands. -/
theorem answered_stage (now : Nat) (e : Engine) (a : Acquirer)
    (result : Except Failure (Option Task)) :
    ∃ stage, a.answered now e result = { a with stage } := by
  cases result with
  | ok choice =>
    cases choice with
    | some task => exact ⟨_, rfl⟩
    | none => exact afterMiss_stage now e a
  | error failure => cases failure <;> exact ⟨_, rfl⟩

end Acquirer

namespace Seeker

open Acquirer (Deed)

/-- Someone with a deadline, and what they have done. -/
structure Punctual (deadline : Nat) (h : List Deed) (now : Nat) (s : Seeker) : Prop where
  own : s.acquirer.deadline = some deadline
  past : ∀ x ∈ h, x.time ≤ now
  chain : h.IsChain fun x y => x.time ≤ y.time ∧ x.Next deadline y
  follows : Acquirer.Stage.Follows deadline h.getLast? s.acquirer.stage
  /-- Whoever is in the section of an attempt has begun one. -/
  inside : ∀ attempt, s.attempt = some attempt → ∃ limit, s.acquirer.stage = .entering limit
  told : ∀ x ∈ h, x.doing = .leaves → s.acquirer.cancelled = true

variable {f : Floor} {s s' : Seeker} {e e' : Engine} {workers : List Worker}
  {deadline now : Nat} {deeds h : List Deed}

namespace Punctual

/-- One more deed. -/
theorem snoc {x : Deed} {a : Acquirer} {attempt : Option Acquirer.Attempt} {listener : Listener}
    {stage : Acquirer.Stage} (punctual : Punctual deadline h now ⟨a, attempt⟩) (time : x.time = now)
    (next : ∀ y, h.getLast? = some y → y.Next deadline x)
    (follows : Acquirer.Stage.Follows deadline (some x) stage)
    (told : x.doing = .leaves → a.cancelled = true) :
    Punctual deadline (h ++ [x]) now ⟨{ a with listener, stage }, none⟩ := by
  refine ⟨punctual.own, ?_, ?_, ?_, nofun, ?_⟩
  · exact List.forall_mem_append.mpr
      ⟨punctual.past, List.forall_mem_singleton.mpr (Nat.le_of_eq time)⟩
  · refine punctual.chain.append (List.isChain_singleton x) ?_
    rintro y last _ ⟨⟩
    rw [time]
    exact ⟨punctual.past y (List.mem_of_getLast? last), next y last⟩
  · rw [List.getLast?_concat]
    exact follows
  · exact List.forall_mem_append.mpr ⟨punctual.told, List.forall_mem_singleton.mpr told⟩

/-- What someone who is about to make an attempt has done last. -/
theorem before_trying {a : Acquirer} {attempt : Option Acquirer.Attempt} {x : Deed}
    (punctual : Punctual deadline h now ⟨a, attempt⟩) (stage : a.stage = .trying)
    (last : h.getLast? = some x) : x.doing.putsOff = true ∨ ∃ event, x.doing = .hears event := by
  have follows := punctual.follows
  simp only [last, stage] at follows
  cases follows with
  | again hears => exact hears

theorem before_entering {a : Acquirer} {attempt : Option Acquirer.Attempt} {x : Deed} {limit : Nat}
    (punctual : Punctual deadline h now ⟨a, attempt⟩) (stage : a.stage = .entering limit)
    (last : h.getLast? = some x) : x.doing = .begins := by
  have follows := punctual.follows
  simp only [last, stage] at follows
  cases follows with
  | begun begins => exact begins

theorem before_waiting {a : Acquirer} {attempt : Option Acquirer.Attempt} {x : Deed} {limit : Nat}
    (punctual : Punctual deadline h now ⟨a, attempt⟩) (stage : a.stage = .waiting limit)
    (last : h.getLast? = some x) : x.doing = .attempts (.ok none) ∧ x.time < deadline := by
  have follows := punctual.follows
  simp only [last, stage] at follows
  cases follows with
  | waits found early => exact ⟨found, early⟩

/-- An attempt that had its section is over. -/
theorem attempts {a : Acquirer} {attempt : Acquirer.Attempt}
    {result : Except Failure (Option Task)} {before after : Contents} (e : Engine)
    (punctual : Punctual deadline h now ⟨a, some attempt⟩) :
    Punctual deadline (h ++ [⟨now, .attempts result, before, after⟩]) now
      ⟨a.answered now e result, none⟩ := by
  obtain ⟨limit, entering⟩ := punctual.inside attempt rfl
  obtain ⟨stage, answered⟩ := Acquirer.answered_stage now e a result
  have follows := Acquirer.answered_follows now e punctual.own result before after
  rw [answered] at follows ⊢
  exact punctual.snoc rfl (fun y last => .made (punctual.before_entering entering last) rfl) follows
    nofun

theorem moves (punctual : Punctual deadline h now s) (moves : s.Moves now e deeds e' s') :
    Punctual deadline (h ++ deeds) now s' := by
  cases moves with
  | begins stage =>
    exact punctual.snoc rfl (fun y last => .again (punctual.before_trying stage last) (.inl rfl))
      (.begun rfl) nofun
  | refused stage =>
    exact punctual.snoc rfl (fun y last => .putOff (punctual.before_entering stage last) rfl)
      (.again (.inl rfl)) nofun
  | @opens _ limit _ _ _ stage =>
    rw [List.append_nil]
    exact ⟨punctual.own, punctual.past, punctual.chain, punctual.follows, fun _ _ => ⟨limit, stage⟩,
      punctual.told⟩
  | asks =>
    rw [List.append_nil]
    exact ⟨punctual.own, punctual.past, punctual.chain, punctual.follows,
      fun _ _ => punctual.inside _ rfl, punctual.told⟩
  | commits | fails => exact punctual.attempts _
  | @hears _ _ event stage =>
    have next (y) (last : h.getLast? = some y) :
        y.Next deadline ⟨now, .hears event, e.store.committed, e.store.committed⟩ := by
      obtain ⟨found, early⟩ := punctual.before_waiting stage last
      exact .waits found early rfl
    cases event with
    | signalled | timedOut => exact punctual.snoc rfl next (.again (.inr ⟨_, rfl⟩)) nofun
    | closed => exact punctual.snoc rfl next (.heard (.inl ⟨_, rfl⟩)) nofun
  | @leaves a stage cancelled =>
    refine punctual.snoc rfl (fun y last => ?_) (.heard (.inr rfl)) fun _ => cancelled
    rcases stage with stage | waits
    · exact .again (punctual.before_trying stage last) (.inr rfl)
    · obtain ⟨limit, stage⟩ := Acquirer.Errand.stage_of_isWaiting waits
      obtain ⟨found, early⟩ := punctual.before_waiting stage last
      exact .waits found early rfl

/-! ## 2. Late attempts -/

variable {earlier later : List Deed} {x y begun made refusal : Deed}

theorem adjacent (punctual : Punctual deadline h now s) (split : h = earlier ++ x :: y :: later) :
    x.time ≤ y.time ∧ x.Next deadline y := by
  have chain := punctual.chain
  rw [split] at chain
  exact (List.isChain_append_cons_cons.mp chain).2.1

/-- An attempt that begins late and is made ends the acquire. -/
theorem ends (punctual : Punctual deadline h now s)
    (split : h = earlier ++ begun :: made :: later) (late : begun.late deadline = true)
    (kept : made.doing.putsOff = false) :
    later = [] ∧ ∃ result, made.doing = .attempts result ∧ s.acquirer.result? = some result := by
  obtain ⟨begins, reached⟩ := Deed.late_iff.mp late
  obtain ⟨after, next⟩ := punctual.adjacent split
  have passed : deadline ≤ made.time := Nat.le_trans reached after
  rcases next.of_begins begins with off | ⟨result, attempts⟩
  · rw [kept] at off
    cases off
  cases later with
  | cons third rest =>
    have follows := punctual.adjacent (split.trans (List.append_cons earlier begun _))
    exact absurd passed (Nat.not_le_of_lt (follows.2.of_made attempts kept))
  | nil =>
    refine ⟨rfl, result, attempts, ?_⟩
    have follows := punctual.follows
    rw [split, List.append_cons, List.getLast?_concat] at follows
    rw [Acquirer.result?, follows.of_made attempts kept passed]

/-- An attempt that is put off does not. -/
theorem goesOn (punctual : Punctual deadline h now s) (split : h = earlier ++ [begun, refusal])
    (off : refusal.doing.putsOff = true) : s.acquirer.stage = .trying := by
  have follows := punctual.follows
  rw [split, List.append_cons, List.getLast?_concat] at follows
  exact follows.of_putsOff off

/-- A late attempt that another one follows was put off. -/
theorem behind {rest : List Deed} {other : Deed} (punctual : Punctual deadline h now s)
    (split : h = earlier ++ begun :: rest) (late : begun.late deadline = true)
    (member : other ∈ rest) (begins : other.doing = .begins) :
    ∃ refusal next later, rest = refusal :: next :: later ∧ refusal.doing.putsOff = true ∧
      next.doing = .begins := by
  cases rest with
  | nil => cases member
  | cons refusal rest =>
    have differs : other ≠ refusal := by
      rintro rfl
      rcases (punctual.adjacent split).2.of_begins (Deed.late_iff.mp late).1 with
        off | ⟨result, attempts⟩
      · rw [begins] at off
        cases off
      · rw [begins] at attempts
        cases attempts
    have behind : other ∈ rest := (List.mem_cons.mp member).resolve_left differs
    have off : refusal.doing.putsOff = true := by
      by_contra kept
      obtain ⟨rfl, -⟩ := punctual.ends split late (eq_false_of_ne_true kept)
      cases behind
    cases rest with
    | nil => cases behind
    | cons next rest =>
      have follows := (punctual.adjacent (split.trans (List.append_cons earlier begun _))).2
      refine ⟨refusal, next, rest, rfl, off, ?_⟩
      rcases follows.of_putsOff off with begins | leaves
      · exact begins
      · -- Nothing follows someone who leaves.
        cases rest with
        | nil =>
          obtain rfl := List.mem_singleton.mp behind
          exact begins
        | cons last rest =>
          have split : h = (earlier ++ [begun, refusal]) ++ next :: last :: rest := by simp [split]
          exact absurd leaves (punctual.adjacent split).2.not_leaves

/-- More than one attempt begins late only if one of them is put off. -/
theorem again (punctual : Punctual deadline h now s) (more : 1 < h.countP (Deed.late deadline)) :
    ∃ begun refusal next, [begun, refusal, next] <:+: h ∧ begun.late deadline = true ∧
      refusal.doing.putsOff = true ∧ next.doing = .begins := by
  obtain ⟨begun, found⟩ := Option.isSome_iff_exists.mp
    (List.find?_isSome.mpr (List.countP_pos_iff.mp (Nat.lt_of_succ_lt more)))
  obtain ⟨late, earlier, rest, split, early⟩ := List.find?_eq_some_iff_append.mp found
  have first : earlier.countP (Deed.late deadline) = 0 :=
    List.countP_eq_zero.mpr fun x member => by simpa using early x member
  have others : 0 < rest.countP (Deed.late deadline) := by
    rw [split, List.countP_append, first, List.countP_cons_of_pos late] at more
    omega
  obtain ⟨other, member, otherLate⟩ := List.countP_pos_iff.mp others
  obtain ⟨refusal, next, later, rfl, off, begins⟩ :=
    punctual.behind split late member (Deed.late_iff.mp otherLate).1
  exact ⟨begun, refusal, next, ⟨earlier, later, by simp [split]⟩, late, off, begins⟩

/-- An attempt behind one that was late is late. -/
theorem twice {next : Deed} (punctual : Punctual deadline h now s)
    (within : [begun, refusal, next] <:+: h) (late : begun.late deadline = true)
    (begins : next.doing = .begins) : 1 < h.countP (Deed.late deadline) := by
  obtain ⟨earlier, later, rfl⟩ := within
  have first : earlier ++ [begun, refusal, next] ++ later =
    earlier ++ begun :: refusal :: next :: later := by simp
  have second : earlier ++ [begun, refusal, next] ++ later =
    (earlier ++ [begun]) ++ refusal :: next :: later := by simp
  have past := Nat.le_trans (Deed.late_iff.mp late).2
    (Nat.le_trans (punctual.adjacent first).1 (punctual.adjacent second).1)
  have again : next.late deadline = true := Deed.late_iff.mpr ⟨begins, past⟩
  rw [first, List.countP_append, List.countP_cons_of_pos late, List.countP_cons,
    List.countP_cons_of_pos again]
  omega

end Punctual

namespace Quest

variable {origin : Floor} {first : Acquirer} {start : Nat}

theorem punctual (quest : Quest origin (.begin origin.engine (some deadline)) start h now f s) :
    Punctual deadline h now s := by
  induction quest with
  | nil =>
    exact ⟨rfl, List.forall_mem_nil _, .nil, .fresh, nofun, List.forall_mem_nil _⟩
  | passes _ later ih =>
    exact ⟨ih.own, fun x member => Nat.le_trans (ih.past x member) later, ih.chain, ih.follows,
      ih.inside, ih.told⟩
  | others _ _ ih | closes _ ih => exact ih
  | cancels _ ih =>
    exact ⟨ih.own, ih.past, ih.chain, ih.follows, ih.inside, fun _ _ _ => rfl⟩
  | moves _ moves ih => exact ih.moves moves

/-- While someone else stays in a section, an attempt is put off after a while. -/
theorem put_off_once {a : Acquirer} (quest : Quest origin first start h now ⟨e, workers⟩ ⟨a, none⟩)
    (trying : a.stage = .trying) (going : a.cancelled = false) (taken : e.store.free = false) :
    ∃ begun refusal later, Quest origin first start (h ++ [begun, refusal]) later ⟨e, workers⟩
      ⟨a, none⟩ ∧ now ≤ later ∧ begun.doing = .begins ∧ begun.time = now ∧
      refusal.doing = .refused := by
  have begins := quest.moves (.begins trying going)
  have waits := begins.passes (Nat.le_add_right now e.store.settings.lockTimeout.toNat)
  have refused := waits.moves (.refused rfl taken (Nat.le_refl _))
  rw [List.append_assoc] at refused
  simp only [← trying] at refused
  exact ⟨_, _, _, refused, Nat.le_add_right _ _, rfl, rfl, rfl⟩

/-- It may be put off any number of times, however late it is. -/
theorem put_off {a : Acquirer} (quest : Quest origin first start h now ⟨e, workers⟩ ⟨a, none⟩)
    (trying : a.stage = .trying) (going : a.cancelled = false) (taken : e.store.free = false)
    (n : Nat) :
    ∃ more later, Quest origin first start (h ++ more) later ⟨e, workers⟩ ⟨a, none⟩ ∧
      now ≤ later ∧ ∀ deadline, deadline ≤ now → more.countP (Deed.late deadline) = n := by
  induction n with
  | zero =>
    refine ⟨[], now, ?_, Nat.le_refl now, fun _ _ => rfl⟩
    rwa [List.append_nil]
  | succ n ih =>
    obtain ⟨more, later, quest, after, count⟩ := ih
    obtain ⟨begun, refusal, last, again, waited, begins, time, refused⟩ :=
      quest.put_off_once trying going taken
    rw [List.append_assoc] at again
    refine ⟨_, last, again, Nat.le_trans after waited, fun deadline reached => ?_⟩
    have late : begun.late deadline = true :=
      Deed.late_iff.mpr ⟨begins, by rw [time]; exact Nat.le_trans reached after⟩
    have other : refusal.late deadline = false := by
      simp [Deed.late, refused, Acquirer.Doing.isBegin]
    simp [count deadline reached, late, other]

end Quest

/-! ## 3. Whole quests -/

/-- What becomes of the attempts that begin at a deadline or later. -/
structure Overtime (deadline : Nat) (h : List Deed) (s : Seeker) : Prop where
  /-- One that is made ends the acquire, with what it has found. -/
  ends : ∀ earlier begun made later, h = earlier ++ begun :: made :: later →
    begun.late deadline = true → made.doing.putsOff = false →
    later = [] ∧ ∃ result, made.doing = .attempts result ∧ s.acquirer.result? = some result
  /-- One that is put off is to be made again. -/
  goesOn : ∀ earlier begun refusal, h = earlier ++ [begun, refusal] →
    begun.late deadline = true → refusal.doing.putsOff = true → s.acquirer.stage = .trying
  /-- More than one begins if and only if one is put off and another one begins. -/
  again : 1 < h.countP (Deed.late deadline) ↔
    ∃ begun refusal next, [begun, refusal, next] <:+: h ∧ begun.late deadline = true ∧
      refusal.doing.putsOff = true ∧ next.doing = .begins
  /-- Unless someone is told to give up, that is so whenever one is put off. -/
  overruns : s.acquirer.cancelled = false → s.acquirer.result? ≠ none →
    (1 < h.countP (Deed.late deadline) ↔ ∃ begun refusal, [begun, refusal] <:+: h ∧
      begun.late deadline = true ∧ refusal.doing.putsOff = true)

/-- Whoever is done and was not told to give up has begun again after each attempt that was put
off. -/
theorem Punctual.next_begins {begun refusal : Deed} (punctual : Punctual deadline h now s)
    (going : s.acquirer.cancelled = false) (ended : s.acquirer.result? ≠ none)
    (within : [begun, refusal] <:+: h) (off : refusal.doing.putsOff = true) :
    ∃ next, [begun, refusal, next] <:+: h ∧ next.doing = .begins := by
  obtain ⟨earlier, later, split⟩ := within
  cases later with
  | nil =>
    rw [List.append_nil] at split
    exact absurd (by simp [Acquirer.result?, punctual.goesOn split.symm off]) ended
  | cons next later =>
    have adjacent : h = (earlier ++ [begun]) ++ refusal :: next :: later := by simp [← split]
    refine ⟨next, ⟨earlier, later, by simp [← split]⟩, ?_⟩
    rcases (punctual.adjacent adjacent).2.of_putsOff off with begins | leaves
    · exact begins
    · have told := punctual.told next (by simp [← split]) leaves
      rw [going] at told
      cases told

/-- Someone acquires with a deadline, on any floor. More than one attempt begins at the deadline or
later if and only if one that began so late was put off, and there is no bound on their number
(`put_off`). One that is made is the last. -/
theorem Quest.overruns_iff {origin : Floor} {start d : Nat}
    (quest : Quest origin (.begin origin.engine (some (start + d))) start h now f s) :
    Overtime (start + d) h s := by
  have punctual := quest.punctual
  have again : 1 < h.countP (Deed.late (start + d)) ↔
      ∃ begun refusal next, [begun, refusal, next] <:+: h ∧ begun.late (start + d) = true ∧
        refusal.doing.putsOff = true ∧ next.doing = .begins := by
    refine ⟨punctual.again, ?_⟩
    rintro ⟨begun, refusal, next, within, late, -, begins⟩
    exact punctual.twice within late begins
  refine ⟨fun _ _ _ _ split => punctual.ends split, fun _ _ _ split _ => punctual.goesOn split,
    again, fun going ended => ⟨fun more => ?_, ?_⟩⟩
  · obtain ⟨begun, refusal, next, within, late, off, -⟩ := again.mp more
    exact ⟨begun, refusal, List.IsInfix.trans ⟨[], [next], rfl⟩ within, late, off⟩
  · rintro ⟨begun, refusal, within, late, off⟩
    obtain ⟨next, further, begins⟩ := punctual.next_begins going ended within off
    exact again.mpr ⟨begun, refusal, next, further, late, off, begins⟩

/-- Someone acquires for ten milliseconds while someone else stays in a section. Two attempts begin
late: one that is put off, and one that is made when the other is gone. -/
theorem Quest.overruns_iff_put_off :
    let e := Engine.new .inMemory .standard
    let op := (Order.acquire 0).operation .standard 1
    let origin : Floor := ⟨{ e with store := e.store.opening.2 }, [.inside 0 op op.body.run]⟩
    ∃ now h f s, Quest origin (.begin origin.engine (some (0 + 10))) 0 h now f s ∧
      Overtime (0 + 10) h s ∧ s.acquirer.cancelled = false ∧
      s.acquirer.result? = some (.ok none) ∧ h.countP (Deed.late 10) = 2 := by
  intro e op origin
  have nothing : Quest origin (.begin origin.engine (some (0 + 10))) 0 [] 0
    ⟨origin.engine, origin.workers⟩ ⟨.begin origin.engine (some (0 + 10)), none⟩ := .nil
  have begins := nothing.moves (.begins rfl rfl)
  have refused := (begins.passes (Nat.zero_le 30000)).moves (.refused rfl rfl (by decide))
  have begins := refused.moves (.begins rfl rfl)
  have refused := (begins.passes (by decide : 30000 ≤ 60000)).moves (.refused rfl rfl (by decide))
  have begins := refused.moves (.begins rfl rfl)
  have alone := begins.others (@Floor.Step.work _ _ [] [] _ _ .drop)
  have opens := alone.moves (@Moves.opens _ _ _ _ 0 _ _ rfl rfl)
  have made := opens.answers rfl rfl
  exact ⟨_, _, _, _, made, made.overruns_iff, rfl, rfl, rfl⟩

end Seeker

end TaskQueue
