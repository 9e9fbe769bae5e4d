import TaskQueue.Changes
import TaskQueue.Proofs.History

/-!
# What listeners hear of a channel

Anyone may publish on a channel, listen to it, wait for a change, and close it, in any order and at
any time. Of several things that could end a wait any one may.

A change is news for a listener who began to listen before it was published and was told of none
since (`Unheard`).

Results:
1. `Listener.begins_start`, `Listener.resume_mem`: a wait ends with one of the events that are ready.
2. `Run.behind_iff`: at every moment a listener is behind the channel if and only if there is news.
3. `Run.begins_iff`, `Run.ends_iff`: how a wait can begin and end, by what has happened before.
4. `Run.signals_once`: until the next change a listener is told of news once, or it is still news.
5. `Run.without`: without the waits of one listener everything else goes the same way.
6. `Run.hears`: all of this together.
-/

namespace TaskQueue

/-! ## 1. Waits -/

namespace Listener

variable {l : Listener} {c : Channel} {poll : Nat} {event : ChangeEvent} {expired : Bool}

/-- How a wait begins. On a closed channel it ends at once. Elsewhere it ends at once if it can, and
it may be over in no time if it is to last no time. -/
inductive Begins (l : Listener) (c : Channel) (poll : Nat) : Option ChangeEvent → Prop
  | refused : c.closed = true → Begins l c poll (some .closed)
  | ends {event : ChangeEvent} : c.closed = false → event ∈ l.endings c (poll = 0) →
      Begins l c poll (some event)
  | waits : c.closed = false → l.endings c false = [] → Begins l c poll none

/-- The events that can end a wait while someone can still publish. -/
theorem mem_endings (alive : c.dropped = false) : event ∈ l.endings c expired ↔
    event = .signalled ∧ l.behind c = true ∨ event = .closed ∧ c.closed = true ∨
      event = .timedOut ∧ expired = true := by
  unfold endings
  rw [alive]
  cases l.behind c <;> cases c.closed <;> cases expired <;> simp

/-- What `start` answers is one of the ways in which a wait can begin, however long it is to last. -/
theorem begins_start (l : Listener) (c : Channel) (poll : Nat) : l.Begins c poll (l.start c) := by
  unfold start
  split
  · next closed => exact .refused closed
  · next opened =>
    have opened : c.closed = false := eq_false_of_ne_true opened
    cases ready : l.endings c false with
    | nil => exact .waits opened ready
    | cons event others =>
      refine .ends opened ?_
      have first : event ∈ l.endings c false := by simp [ready]
      simp only [endings, List.mem_append] at first ⊢
      exact first.imp_right fun none => by simp at none

/-- A wait that is taken up again ends, if it does, with one of the events that are ready. -/
theorem resume_mem (resumes : l.resume c expired = some event) : event ∈ l.endings c expired :=
  List.mem_of_mem_head? resumes

/-- How a wait can begin while someone can still publish. -/
theorem begins_iff (alive : c.dropped = false) (outcome : Option ChangeEvent) :
    l.Begins c poll outcome ↔
      if c.closed then outcome = some .closed
      else match outcome with
        | some .signalled => l.behind c = true
        | some .timedOut => poll = 0
        | some .closed => False
        | none => l.behind c = false := by
  have quiet (opened : c.closed = false) : l.endings c false = [] ↔ l.behind c = false := by
    unfold endings
    rw [alive, opened]
    cases l.behind c <;> simp
  constructor
  · intro begins
    cases begins with
    | refused closed => simp [closed]
    | @ends event opened ready =>
      rw [mem_endings alive, opened] at ready
      rw [opened]
      cases event with
      | signalled | timedOut => simpa using ready
      | closed => simp at ready
    | waits opened none =>
      rw [opened]
      exact (quiet opened).mp none
  · cases closed : c.closed with
    | true =>
      rintro rfl
      exact .refused closed
    | false =>
      intro possible
      match outcome with
      | some .signalled => exact .ends closed ((mem_endings alive).mpr (.inl ⟨rfl, possible⟩))
      | some .timedOut =>
        refine .ends closed ((mem_endings alive).mpr (.inr (.inr ⟨rfl, ?_⟩)))
        exact decide_eq_true possible
      | some .closed => cases possible
      | none => exact .waits closed ((quiet closed).mpr possible)

end Listener

/-! ## 2. Listeners of one channel -/

/-- Someone who listens, and the point in time up to which they wait, if they do. -/
structure Attendee where
  listener : Listener
  limit : Option Nat

/-- A channel, the time, and all who listen. -/
structure Audience where
  now : Nat
  channel : Channel
  attendees : List Attendee

namespace Audience

/-- Something that happens on a channel. Listeners are numbered. -/
inductive Occurrence
  | published
  | closed
  | passed (ms : Nat)
  | subscribed (i : Nat)
  /-- A listener asked whether there is a change, and was answered. -/
  | looked (i : Nat) (answer : Bool)
  /-- A listener began to wait. The wait ended at once if there is an outcome. -/
  | waited (i poll : Nat) (outcome : Option ChangeEvent)
  /-- A wait ended that had begun earlier. -/
  | ended (i : Nat) (event : ChangeEvent)
  deriving DecidableEq

namespace Occurrence

/-- Whether a wait of a listener ends with a change. -/
def signals (i : Nat) : Occurrence → Bool
  | .waited j _ (some .signalled) | .ended j .signalled => i = j
  | _ => false

/-- Whether something is a question or a wait of a listener. -/
def isOf (i : Nat) : Occurrence → Bool
  | .looked j _ | .waited j _ _ | .ended j _ => i = j
  | _ => false

end Occurrence

/-- A channel that nobody listens to yet. -/
def new : Audience :=
  ⟨0, .new, []⟩

/-- A listener whose wait has begun, and has ended if there is an outcome. -/
def begun (now : Nat) (c : Channel) (l : Listener) (poll : Nat) : Option ChangeEvent → Attendee
  | some event => ⟨l.after c event, none⟩
  | none => ⟨l, some (now + poll)⟩

/-- Everything that can happen on a channel. -/
inductive Step : Audience → Occurrence → Audience → Prop
  | publish {a : Audience} : Step a .published { a with channel := a.channel.publish }
  | close {a : Audience} : Step a .closed { a with channel := a.channel.close }
  | pass {a : Audience} {ms : Nat} : Step a (.passed ms) { a with now := a.now + ms }
  | subscribe {a : Audience} : Step a (.subscribed a.attendees.length)
      { a with attendees := a.attendees ++ [⟨a.channel.subscribe, none⟩] }
  | look {a : Audience} {i : Nat} {l : Listener} {answer : Bool} :
      a.attendees[i]? = some ⟨l, none⟩ → l.hasChanged a.channel = answer →
      Step a (.looked i answer) a
  | wait {a : Audience} {i poll : Nat} {l : Listener} {outcome : Option ChangeEvent} :
      a.attendees[i]? = some ⟨l, none⟩ → l.Begins a.channel poll outcome →
      Step a (.waited i poll outcome)
        { a with attendees := a.attendees.set i (begun a.now a.channel l poll outcome) }
  | resume {a : Audience} {i limit : Nat} {l : Listener} {event : ChangeEvent} :
      a.attendees[i]? = some ⟨l, some limit⟩ →
      event ∈ l.endings a.channel (limit ≤ a.now) →
      Step a (.ended i event)
        { a with attendees := a.attendees.set i ⟨l.after a.channel event, none⟩ }

/-- Any number of steps on a new channel, the latest last. -/
inductive Run : List Occurrence → Audience → Prop
  | nil : Run [] .new
  | snoc {h : List Occurrence} {a b : Audience} {x : Occurrence} : Run h a → Step a x b →
      Run (h ++ [x]) b

/-- There is news for a listener: a change that was published after they began to listen, and of
which they were not told since. -/
def Unheard (h : List Occurrence) (i : Nat) : Prop :=
  ∃ past later, h = past ++ .published :: later ∧ .subscribed i ∈ past ∧
    ∀ x ∈ later, x.signals i = false

variable {h past later : List Occurrence} {a b : Audience} {x : Occurrence} {i j : Nat}
  {m : Attendee}

/-- A place in a run: what happened before, and the step that was taken there. -/
theorem Run.split (run : Run (past ++ x :: later) a) : ∃ b c, Run past b ∧ Step b x c := by
  generalize whole : past ++ x :: later = h at run
  induction run generalizing later with
  | nil => simp at whole
  | snoc earlier step ih =>
    rcases snoc_eq_append_cons.mp whole.symm with ⟨rfl, rfl, rfl⟩ | ⟨front, rfl, rfl⟩
    · exact ⟨_, _, earlier, step⟩
    · exact ih rfl

theorem unheard_snoc : Unheard (h ++ [x]) i ↔
    x = .published ∧ .subscribed i ∈ h ∨ Unheard h i ∧ x.signals i = false := by
  constructor
  · rintro ⟨past, later, split, listens, untold⟩
    rcases snoc_eq_append_cons.mp split with ⟨rfl, rfl, -⟩ | ⟨front, rfl, rfl⟩
    · exact .inl ⟨rfl, listens⟩
    · have earlier := fun y member => untold y (List.mem_append_left [x] member)
      exact .inr ⟨⟨past, front, rfl, listens, earlier⟩, untold x (by simp)⟩
  · rintro (⟨rfl, listens⟩ | ⟨⟨past, later, rfl, listens, untold⟩, quiet⟩)
    · exact ⟨h, [], rfl, listens, nofun⟩
    · refine ⟨past, later ++ [x], by simp, listens, fun y member => ?_⟩
      rcases List.mem_append.mp member with earlier | last
      · exact untold y earlier
      · obtain rfl := List.mem_singleton.mp last
        exact quiet

theorem Unheard.listens (news : Unheard h i) : .subscribed i ∈ h := by
  obtain ⟨past, later, rfl, listens, -⟩ := news
  exact List.mem_append_left _ listens

/-! ## 3. One step -/

/-- What a step does to the channel. -/
theorem Step.channel (step : Step a x b) :
    b.channel.dropped = a.channel.dropped ∧
      (b.channel.closed = true ↔ a.channel.closed = true ∨ .closed = x) ∧
      (x = .published ∧ b.channel.version = a.channel.version + 1 ∨
        x ≠ .published ∧ b.channel.version = a.channel.version) := by
  cases step with
  | publish => exact ⟨rfl, by simp [Channel.publish], .inl ⟨rfl, rfl⟩⟩
  | close => exact ⟨rfl, by simp [Channel.close], .inr ⟨nofun, rfl⟩⟩
  | pass | subscribe | look _ _ | wait _ _ | resume _ _ =>
    exact ⟨rfl, by simp, .inr ⟨nofun, rfl⟩⟩

theorem Step.length (step : Step a x b) :
    x = .subscribed a.attendees.length ∧ b.attendees.length = a.attendees.length + 1 ∨
      (∀ i, x ≠ .subscribed i) ∧ b.attendees.length = a.attendees.length := by
  cases step with
  | subscribe => exact .inl ⟨rfl, by simp⟩
  | publish | close | pass | look _ _ | wait _ _ | resume _ _ => exact .inr ⟨nofun, by simp⟩

theorem signals_waited {outcome : Option ChangeEvent} {poll : Nat} :
    (Occurrence.waited j poll outcome).signals i = true ↔ i = j ∧ outcome = some .signalled := by
  cases outcome with
  | none => simp [Occurrence.signals]
  | some event => cases event <;> simp [Occurrence.signals]

theorem signals_ended {event : ChangeEvent} :
    (Occurrence.ended j event).signals i = true ↔ i = j ∧ event = .signalled := by
  cases event <;> simp [Occurrence.signals]

/-- What a step does to one listener: they begin to listen, they are told of a change and have seen
everything from then on, or they have seen what they saw before. -/
inductive Moves (a : Audience) (x : Occurrence) (i : Nat) (m : Attendee) : Prop
  | begins : x = .subscribed i → m.listener = a.channel.subscribe → Moves a x i m
  | told {m' : Attendee} : a.attendees[i]? = some m' → x.signals i = true →
      m'.listener.behind a.channel = true → m.listener = a.channel.subscribe → Moves a x i m
  | stays {m' : Attendee} : a.attendees[i]? = some m' → x.signals i = false →
      m.listener = m'.listener → Moves a x i m

/-- A wait that has not begun or ended leaves a listener as they are. -/
theorem moves_other (present : a.attendees[i]? = some m) (quiet : x.signals i = false) :
    Moves a x i m :=
  .stays present quiet rfl

/-- What the end of a wait does, if the wait has ended. -/
theorem moves_wait (outcome : Option ChangeEvent) {l : Listener} {limit : Option Nat}
    (present : a.attendees[i]? = some ⟨l, limit⟩)
    (signals : x.signals i = true ↔ outcome = some .signalled)
    (ready : outcome = some .signalled → l.behind a.channel = true)
    (same : m.listener = outcome.elim l (l.after a.channel)) : Moves a x i m := by
  by_cases told : outcome = some .signalled
  · rw [told] at same
    exact .told present (signals.mpr told) (ready told) same
  · refine .stays present (eq_false_of_ne_true fun yes => told (signals.mp yes)) ?_
    match outcome with
    | none | some .timedOut | some .closed => exact same
    | some .signalled => exact absurd rfl told

theorem Step.moves (alive : a.channel.dropped = false) (step : Step a x b)
    (present : b.attendees[i]? = some m) : Moves a x i m := by
  cases step with
  | publish | close | pass | look _ _ => exact moves_other present rfl
  | subscribe =>
    rw [List.getElem?_append] at present
    split at present
    · exact moves_other present rfl
    · next beyond =>
      rw [List.getElem?_singleton] at present
      split at present
      · cases present
        have own : i = a.attendees.length := by omega
        exact .begins (congrArg _ own.symm) rfl
      · cases present
  | @wait j poll l outcome waits begins =>
    rw [List.getElem?_set] at present
    split at present
    · next own =>
      subst own
      split at present
      · refine moves_wait outcome waits (by simp [signals_waited]) ?_ ?_
        · rintro rfl
          cases begins with
          | ends _ ready => simpa [Listener.mem_endings alive] using ready
        · cases outcome <;> cases present <;> rfl
      · cases present
    · next other =>
      refine moves_other present (eq_false_of_ne_true fun own => ?_)
      exact other (signals_waited.mp own).1.symm
  | @resume j limit l event waits ready =>
    rw [List.getElem?_set] at present
    split at present
    · next own =>
      subst own
      split at present
      · cases present
        refine moves_wait (some event) waits (by simp [signals_ended]) ?_ rfl
        rintro ⟨⟩
        simpa [Listener.mem_endings alive] using ready
      · cases present
    · next other =>
      refine moves_other present (eq_false_of_ne_true fun own => ?_)
      exact other (signals_ended.mp own).1.symm

/-! ## 4. Runs -/

theorem Run.alive (run : Run h a) : a.channel.dropped = false := by
  induction run with
  | nil => rfl
  | snoc _ step ih => exact step.channel.1.trans ih

/-- A channel is closed from the moment that someone closes it. -/
theorem Run.closed_iff (run : Run h a) : a.channel.closed = true ↔ .closed ∈ h := by
  induction run with
  | nil => simp [new, Channel.new]
  | snoc _ step ih => rw [step.channel.2.1, ih, List.mem_append, List.mem_singleton]

/-- Those who listen are those who began to. -/
theorem Run.listens_iff (run : Run h a) : i < a.attendees.length ↔ .subscribed i ∈ h := by
  induction run with
  | nil => simp [new]
  | snoc _ step ih =>
    rw [List.mem_append, List.mem_singleton, ← ih]
    rcases step.length with ⟨rfl, more⟩ | ⟨other, same⟩
    · rw [more, Occurrence.subscribed.injEq]
      omega
    · rw [same]
      exact ⟨.inl, fun either => either.resolve_right fun own => other i own.symm⟩

theorem Run.seen_le (run : Run h a) (present : a.attendees[i]? = some m) :
    m.listener.seen ≤ a.channel.version := by
  induction run generalizing m with
  | nil => simp [new] at present
  | @snoc h a b x earlier step ih =>
    have grows : a.channel.version ≤ b.channel.version := by
      rcases step.channel.2.2 with ⟨-, more⟩ | ⟨-, same⟩ <;> omega
    refine Nat.le_trans ?_ grows
    cases step.moves earlier.alive present with
    | begins _ seen | told _ _ _ seen => rw [seen]; exact Nat.le_refl _
    | stays before _ same => exact same ▸ ih before

/-- At every moment a listener is behind the channel if and only if there is news for them. -/
theorem Run.behind_iff (run : Run h a) (present : a.attendees[i]? = some m) :
    m.listener.behind a.channel = true ↔ Unheard h i := by
  induction run generalizing m with
  | nil => simp [new] at present
  | @snoc h a b x earlier step ih =>
    rw [unheard_snoc]
    have moves := step.moves earlier.alive present
    rcases step.channel.2.2 with ⟨rfl, more⟩ | ⟨other, same⟩
    · -- A change was published: a listener saw at most what came before it.
      cases moves with
      | begins own | told _ own => cases own
      | stays before _ seen =>
        have le := earlier.seen_le before
        have listens := earlier.listens_iff.mp (List.getElem?_eq_some_iff.mp before).1
        have behind : b.channel.version ≠ m.listener.seen := by rw [seen]; omega
        simp [Listener.behind, behind, listens]
    · simp only [Listener.behind, same, other, false_and, false_or]
      cases moves with
      | begins own seen =>
        subst own
        have fresh : .subscribed i ∉ h := fun listens => by
          have here := earlier.listens_iff.mpr listens
          rcases step.length with ⟨own, -⟩ | ⟨foreign, -⟩
          · cases own
            exact absurd here (Nat.lt_irrefl _)
          · exact foreign i rfl
        have none : ¬ Unheard h i := fun news => fresh news.listens
        simp [seen, Channel.subscribe, none]
      | told _ signals _ seen => simp [signals, seen, Channel.subscribe]
      | stays before quiet seen =>
        rw [seen, quiet]
        simpa [Listener.behind] using ih before

theorem Run.hasChanged_iff (run : Run h a) (present : a.attendees[i]? = some m) :
    m.listener.hasChanged a.channel = true ↔ Unheard h i := by
  simpa [Listener.hasChanged, run.alive] using run.behind_iff present

/-! ## 5. How waits begin and end -/

/-- How a wait of a listener may begin, by what has happened so far. -/
def MayBegin (h : List Occurrence) (i poll : Nat) (outcome : Option ChangeEvent) : Prop :=
  if .closed ∈ h then outcome = some .closed
  else match outcome with
    | some .signalled => Unheard h i
    | some .timedOut => poll = 0
    | some .closed => False
    | none => ¬ Unheard h i

/-- How a wait of a listener may end that has begun earlier, by what has happened so far. -/
def MayEnd (h : List Occurrence) (i : Nat) (expired : Prop) : ChangeEvent → Prop
  | .signalled => Unheard h i
  | .timedOut => expired
  | .closed => .closed ∈ h

theorem Run.begins_iff {l : Listener} {poll : Nat} {outcome : Option ChangeEvent} (run : Run h a)
    (idle : a.attendees[i]? = some ⟨l, none⟩) :
    (∃ b, Step a (.waited i poll outcome) b) ↔ MayBegin h i poll outcome := by
  have news : l.behind a.channel = true ↔ Unheard h i := run.behind_iff idle
  have begins : (∃ b, Step a (.waited i poll outcome) b) ↔ l.Begins a.channel poll outcome := by
    refine ⟨?_, fun begins => ⟨_, .wait idle begins⟩⟩
    rintro ⟨b, step⟩
    cases step with
    | wait present begins =>
      cases idle.symm.trans present
      exact begins
  unfold MayBegin
  rw [begins, Listener.begins_iff run.alive]
  simp only [run.closed_iff, news, Bool.eq_false_iff, ne_eq]

theorem Run.ends_iff {l : Listener} {limit : Nat} {event : ChangeEvent} (run : Run h a)
    (waits : a.attendees[i]? = some ⟨l, some limit⟩) :
    (∃ b, Step a (.ended i event) b) ↔ MayEnd h i (limit ≤ a.now) event := by
  have news : l.behind a.channel = true ↔ Unheard h i := run.behind_iff waits
  have ends : (∃ b, Step a (.ended i event) b) ↔
      event ∈ l.endings a.channel (limit ≤ a.now) := by
    refine ⟨?_, fun ready => ⟨_, .resume waits ready⟩⟩
    rintro ⟨b, step⟩
    cases step with
    | resume present ready =>
      cases waits.symm.trans present
      exact ready
  rw [ends, Listener.mem_endings run.alive]
  cases event <;> simp [MayEnd, news, run.closed_iff]

/-! ## 6. What a listener is told -/

/-- A listener is told of a change only if there is news for them. -/
theorem Run.told (run : Run h a) (step : Step a x b) (signals : x.signals i = true) :
    Unheard h i := by
  cases step with
  | publish | close | pass | subscribe | look _ _ => cases signals
  | wait present begins =>
    obtain ⟨rfl, rfl⟩ := signals_waited.mp signals
    cases begins with
    | ends opened ready =>
      refine (run.behind_iff present).mp ?_
      simpa [Listener.mem_endings run.alive] using ready
  | resume present ready =>
    obtain ⟨rfl, rfl⟩ := signals_ended.mp signals
    refine (run.behind_iff present).mp ?_
    simpa [Listener.mem_endings run.alive] using ready

/-- Until the next change a listener is told of none and the news stay what they were, or there were
news, they are told of them once, and then there are none. -/
theorem Run.signals_once (run : Run (past ++ later) a) (quiet : .published ∉ later) :
    later.countP (·.signals i) = 0 ∧ (Unheard (past ++ later) i ↔ Unheard past i) ∨
      later.countP (·.signals i) = 1 ∧ Unheard past i ∧ ¬ Unheard (past ++ later) i := by
  induction later using List.reverseRecOn generalizing a with
  | nil => simp
  | append_singleton later x ih =>
    rw [← List.append_assoc] at run ⊢
    obtain ⟨b, c, before, step⟩ := run.split
    have ih := ih before fun earlier => quiet (List.mem_append_left _ earlier)
    have other : x ≠ .published := fun own => quiet (by simp [own])
    have goesOn : Unheard (past ++ later ++ [x]) i ↔
        Unheard (past ++ later) i ∧ x.signals i = false := by
      rw [unheard_snoc]
      simp only [other, false_and, false_or]
    rw [goesOn, List.countP_append, List.countP_singleton]
    cases signals : x.signals i with
    | false => simpa using ih
    | true =>
      have news : Unheard (past ++ later) i := before.told step signals
      simp_all

/-! ## 7. Listeners do not disturb each other -/

/-- Two audiences that differ in one listener at most. -/
structure Alike (i : Nat) (a b : Audience) : Prop where
  now : b.now = a.now
  channel : b.channel = a.channel
  length : b.attendees.length = a.attendees.length
  others {j : Nat} : j ≠ i → b.attendees[j]? = a.attendees[j]?

variable {c : Audience}

/-- What a listener asks and waits for leaves everyone else as they were. -/
theorem Alike.skip (alike : Alike i a c) (step : Step a x b) (own : x.isOf i = true) :
    Alike i b c := by
  cases step with
  | publish | close | pass | subscribe => cases own
  | look => exact alike
  | wait | resume =>
    obtain rfl := of_decide_eq_true own
    refine ⟨alike.now, alike.channel, by simp [alike.length], fun other => ?_⟩
    rw [List.getElem?_set_ne other.symm]
    exact alike.others other

/-- What someone else does can be done whatever this listener did. -/
theorem Alike.step (alike : Alike i a c) (step : Step a x b) (other : x.isOf i = false) :
    ∃ d, Step c x d ∧ Alike i b d := by
  obtain ⟨now, channel, length, others⟩ := alike
  cases step with
  | publish => exact ⟨_, .publish, now, congrArg Channel.publish channel, length, others⟩
  | close => exact ⟨_, .close, now, congrArg Channel.close channel, length, others⟩
  | pass => exact ⟨_, .pass, congrArg (· + _) now, channel, length, others⟩
  | subscribe =>
    rw [← length]
    refine ⟨_, .subscribe, now, channel, by simp [length], fun apart => ?_⟩
    simp only [List.getElem?_append, length, channel, others apart]
  | look present answered =>
    have apart := of_decide_eq_false other
    exact ⟨_, .look ((others (Ne.symm apart)).trans present) (channel ▸ answered), now, channel,
      length, others⟩
  | wait present begins =>
    have apart := of_decide_eq_false other
    refine ⟨_, .wait ((others (Ne.symm apart)).trans present) (channel ▸ begins), now, channel,
      by simp [length], fun apart' => ?_⟩
    simp only [List.getElem?_set, length, channel, now, others apart']
  | resume present ready =>
    have apart := of_decide_eq_false other
    refine ⟨_, .resume ((others (Ne.symm apart)).trans present) (channel ▸ now ▸ ready), now,
      channel, by simp [length], fun apart' => ?_⟩
    simp only [List.getElem?_set, length, channel, others apart']

/-- Had a listener never asked nor waited, everything else would have gone the same way. -/
theorem Run.without (run : Run h a) (i : Nat) :
    ∃ b, Run (h.filter fun x => !x.isOf i) b ∧ Alike i a b := by
  induction run with
  | nil => exact ⟨_, .nil, rfl, rfl, rfl, fun _ => rfl⟩
  | @snoc h a b x _ step ih =>
    obtain ⟨c, run, alike⟩ := ih
    rw [List.filter_append]
    cases own : x.isOf i with
    | true =>
      refine ⟨c, ?_, alike.skip step own⟩
      simpa [own] using run
    | false =>
      obtain ⟨d, same, alike⟩ := alike.step step own
      refine ⟨d, ?_, alike⟩
      simpa [own] using run.snoc same

/-! ## 8. All together -/

/-- What a listener hears of a channel, whatever everyone does and whichever of several endings their
waits have. They are told of a change only if there is news; they have a change before them exactly
as long as there is news, which only being told of it ends; how each of their waits may begin and end
is settled by what has happened; until the next change they are told of at most one, and exactly one
if the news are gone then; and nobody else would notice had they not waited. -/
theorem Run.hears (run : Run h a) (i : Nat) :
    (∀ past x later, h = past ++ x :: later → x.signals i = true → Unheard past i) ∧
    (∀ past answer later, h = past ++ .looked i answer :: later →
      (answer = true ↔ Unheard past i)) ∧
    (∀ m, a.attendees[i]? = some m → (m.listener.hasChanged a.channel = true ↔ Unheard h i)) ∧
    (∀ l poll outcome, a.attendees[i]? = some ⟨l, none⟩ →
      ((∃ b, Step a (.waited i poll outcome) b) ↔ MayBegin h i poll outcome)) ∧
    (∀ l limit event, a.attendees[i]? = some ⟨l, some limit⟩ →
      ((∃ b, Step a (.ended i event) b) ↔ MayEnd h i (limit ≤ a.now) event)) ∧
    (∀ past poll outcome later, h = past ++ .waited i poll outcome :: later → .closed ∈ past →
      outcome = some .closed) ∧
    (∀ past later, h = past ++ later → .published ∉ later →
      later.countP (·.signals i) = 0 ∧ (Unheard h i ↔ Unheard past i) ∨
        later.countP (·.signals i) = 1 ∧ Unheard past i ∧ ¬ Unheard h i) ∧
    ∃ b, Run (h.filter fun x => !x.isOf i) b ∧ Alike i a b := by
  refine ⟨?told, ?looked, ?changed, ?begins, ?ends, ?refused, ?once, run.without i⟩
  case told =>
    rintro past x later rfl signals
    obtain ⟨b, c, before, step⟩ := run.split
    exact before.told step signals
  case looked =>
    rintro past answer later rfl
    obtain ⟨b, c, before, step⟩ := run.split
    cases step with
    | look present answered => exact answered ▸ before.hasChanged_iff present
  case changed => exact fun m present => run.hasChanged_iff present
  case begins => exact fun l poll outcome idle => run.begins_iff idle
  case ends => exact fun l limit event waits => run.ends_iff waits
  case refused =>
    rintro past poll outcome later rfl closed
    obtain ⟨b, c, before, step⟩ := run.split
    cases step with
    | wait present begins =>
      have may := (before.begins_iff present).mp ⟨_, .wait present begins⟩
      rwa [MayBegin.eq_def, if_pos closed] at may
  case once =>
    rintro past later rfl quiet
    exact run.signals_once quiet

/-- Two listeners. The first lets a wait run out while a change is before them, is told of two
changes at once, and lets another wait run out when there is a third. The second is told of the
third. Then the channel is closed. -/
def pair : List Occurrence :=
  [.subscribed 0, .published, .published, .subscribed 1, .waited 0 0 (some .timedOut),
    .waited 0 5 (some .signalled), .waited 0 5 none, .published, .passed 5, .ended 0 .timedOut,
    .looked 0 true, .waited 1 0 (some .signalled), .closed, .waited 0 5 (some .closed)]

theorem Run.hears_pair : ∃ a, Run pair a ∧ Unheard pair 0 ∧ ¬ Unheard pair 1 ∧
    Unheard (pair.take 9) 0 ∧ ¬ Unheard (pair.take 7) 0 ∧
    ∃ b, Run (pair.filter fun x => !x.isOf 0) b ∧ Alike 0 a b := by
  have published : Run (pair.take 4) ⟨0, ⟨2, false, false⟩, [⟨⟨0⟩, none⟩, ⟨⟨2⟩, none⟩]⟩ :=
    .snoc (.snoc (.snoc (.snoc .nil .subscribe) .publish) .publish) .subscribe
  have missed : Run (pair.take 5) ⟨0, ⟨2, false, false⟩, [⟨⟨0⟩, none⟩, ⟨⟨2⟩, none⟩]⟩ :=
    .snoc published (.wait rfl (.ends rfl (by decide)))
  have told : Run (pair.take 6) ⟨0, ⟨2, false, false⟩, [⟨⟨2⟩, none⟩, ⟨⟨2⟩, none⟩]⟩ :=
    .snoc missed (.wait rfl (.ends rfl (by decide)))
  have early : Run (pair.take 7) ⟨0, ⟨2, false, false⟩, [⟨⟨2⟩, some 5⟩, ⟨⟨2⟩, none⟩]⟩ :=
    .snoc told (.wait rfl (.waits rfl rfl))
  have middle : Run (pair.take 9) ⟨5, ⟨3, false, false⟩, [⟨⟨2⟩, some 5⟩, ⟨⟨2⟩, none⟩]⟩ :=
    .snoc (.snoc early .publish) .pass
  have ended : Run (pair.take 10) ⟨5, ⟨3, false, false⟩, [⟨⟨2⟩, none⟩, ⟨⟨2⟩, none⟩]⟩ :=
    .snoc middle (.resume rfl (by decide))
  have looked : Run (pair.take 11) ⟨5, ⟨3, false, false⟩, [⟨⟨2⟩, none⟩, ⟨⟨2⟩, none⟩]⟩ :=
    .snoc ended (.look rfl rfl)
  have second : Run (pair.take 12) ⟨5, ⟨3, false, false⟩, [⟨⟨2⟩, none⟩, ⟨⟨3⟩, none⟩]⟩ :=
    .snoc looked (.wait rfl (.ends rfl (by decide)))
  have late : Run pair ⟨5, ⟨3, true, false⟩, [⟨⟨2⟩, none⟩, ⟨⟨3⟩, none⟩]⟩ :=
    .snoc (.snoc second .close) (.wait rfl (.refused rfl))
  obtain ⟨-, -, news, -, -, -, -, others⟩ := late.hears 0
  obtain ⟨-, -, none, -⟩ := late.hears 1
  obtain ⟨-, -, before, -⟩ := early.hears 0
  obtain ⟨-, -, after, -⟩ := middle.hears 0
  refine ⟨_, late, (news _ rfl).mp rfl, ?_, (after _ rfl).mp rfl, ?_, others⟩
  · exact fun unheard => absurd ((none _ rfl).mpr unheard) (by decide)
  · exact fun unheard => absurd ((before _ rfl).mpr unheard) (by decide)

end Audience

end TaskQueue
