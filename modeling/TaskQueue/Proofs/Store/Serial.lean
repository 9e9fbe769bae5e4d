import TaskQueue.Proofs.History
import TaskQueue.Proofs.Store.Sections

/-!
# Sections and writes of their own are serializable

A history lists what happens at a store in any interleaving: sections begin and end, calls are made
inside and outside of them, and cursors read on, some of them after their section has ended. Each
entry carries the answer that was given.

`History.serial` reads a serial order off a history: the writes of each section that committed, at
the place where it committed, and each write outside sections that succeeded.

Results:
1. `tracks_step`: one step of a store keeps it in agreement with its history.
2. `run_serializable`: the committed contents are those of the serial order, and each answer is that
   of a section that ran alone, or of the committed contents of that moment.
-/

namespace TaskQueue

namespace Contents

/-- The contents after some requests, one after the other. -/
def apply (c : Contents) (requests : List Request) : Contents :=
  requests.foldl (fun c q => (c.answer q).2) c

theorem apply_append (c : Contents) (first second : List Request) :
    c.apply (first ++ second) = (c.apply first).apply second :=
  List.foldl_append

theorem apply_filter_isWrite (c : Contents) (requests : List Request) :
    c.apply (requests.filter Request.isWrite) = c.apply requests := by
  induction requests generalizing c with
  | nil => rfl
  | cons q rest ih =>
    cases write : q.isWrite with
    | true =>
      rw [List.filter_cons_of_pos write]
      exact ih (c.answer q).2
    | false =>
      rw [List.filter_cons_of_neg (by simp [write]), ih c]
      simp only [apply, List.foldl_cons, answer_read c write]

end Contents

/-- The requests that cursors make. -/
def Request.isPage : Request → Bool
  | .count _ => true
  | .fetch _ _ _ => true
  | .fetchIds _ _ _ => true
  | _ => false

theorem Request.not_isWrite {q : Request} (paged : q.isPage = true) : q.isWrite = false := by
  cases q <;> first | rfl | cases paged

namespace Store

/-! ## Histories -/

/-- How a section ends. -/
inductive Closing
  | commit
  | rollback
  | drop

/-- Something that happens at a store, with the answer that was given. -/
inductive Happening
  /-- Someone asks for a section. -/
  | begin (result : Except Failure SectionId)
  /-- A call inside a section. -/
  | inside (id : SectionId) (q : Request) (reply : Except Failure q.Reply)
  | ended (id : SectionId) (closing : Closing)
  /-- A call outside sections; a write is committed at once. -/
  | outside (q : Request) (reply : Except Failure q.Reply)
  /-- A cursor counts its rows or fetches some, from the view in which it was opened. -/
  | page (view : View) (q : Request) (reply : Except Failure q.Reply)

namespace Happening

/-- Whether a section begins. -/
def begins (id : SectionId) : Happening → Bool
  | .begin (.ok other) => other = id
  | _ => false

/-- Whether a section ends. -/
def ends (id : SectionId) : Happening → Bool
  | .ended other _ => other = id
  | _ => false

/-- The request of a call inside a section. -/
def callOf (id : SectionId) : Happening → Option Request
  | .inside other q _ => if other = id then some q else none
  | _ => none

end Happening

/-- What happened so far, the latest last. -/
abbrev History := List Happening

namespace History

/-- The calls inside a section. -/
def calls (h : History) (id : SectionId) : List Request :=
  h.filterMap (·.callOf id)

/-- Whether a section has begun and not ended. -/
def isOpen (h : History) (id : SectionId) : Bool :=
  h.any (·.begins id) && !h.any (·.ends id)

/-- What had happened when a section began. -/
def untilBegin (h : History) (id : SectionId) : History :=
  h.takeWhile fun x => !x.begins id

/-- The writes that something commits: all those of a section that commits, and a write outside
sections that succeeds. -/
def committedBy (h : History) : Happening → List Request
  | .ended id .commit => (h.calls id).filter Request.isWrite
  | .outside q (.ok _) => if q.isWrite then [q] else []
  | _ => []

/-- All committed writes in the order of their commits, those of one section side by side. -/
def serial (h : History) : List Request :=
  h.flatMap h.committedBy

/-- The committed contents, beginning with some contents. -/
def committed (h : History) (c : Contents) : Contents :=
  c.apply h.serial

/-- What a section sees that runs alone on the committed contents at its begin. -/
def alone (h : History) (c : Contents) (id : SectionId) : Contents :=
  ((h.untilBegin id).committed c).apply (h.calls id)

/-- What a view shows: an open section its own contents, all others the committed ones. -/
def seen (h : History) (c : Contents) : View → Contents
  | none => h.committed c
  | some id => if h.isOpen id then h.alone c id else h.committed c

end History

/-! ## Steps -/

/-- One thing that happens at a store. Someone who finds a section open in their way is refused; in
a section only its own calls are made. -/
inductive Step : Store → Happening → Store → Prop
  | begin {s s' : Store} {result : Except Failure SectionId} :
      s.begin = (result, s') → Step s (.begin result) s'
  | inside {s s' : Store} {id : SectionId} {q : Request} {reply : Except Failure q.Reply} :
      s.openId = some id → s.request (some id) q = (reply, s') → Step s (.inside id q reply) s'
  | commit {s : Store} {id : SectionId} : s.openId = some id → Step s (.ended id .commit) s.commit
  | rollback {s : Store} {id : SectionId} :
      s.openId = some id → Step s (.ended id .rollback) s.rollback
  | drop {s : Store} {id : SectionId} : s.openId = some id → Step s (.ended id .drop) s.rollback
  | outside {s s' : Store} {q : Request} {reply : Except Failure q.Reply} :
      s.request none q = (reply, s') → Step s (.outside q reply) s'
  | page {s s' : Store} {v : View} {q : Request} {reply : Except Failure q.Reply} :
      q.isPage = true → s.request v q = (reply, s') → Step s (.page v q reply) s'

/-- Any number of steps, with their history. -/
inductive Run (start : Store) : History → Store → Prop
  | nil : Run start [] start
  | snoc {h : History} {s s' : Store} {x : Happening} :
      Run start h s → Step s x s' → Run start (h ++ [x]) s'

/-- The answer in `x` is the right one after `past`: as if each section ran alone, and from the
committed contents of that moment everywhere else. -/
def Answered (start : Store) (past : History) : Happening → Prop
  | .begin result => result.isOk = true ↔ ∀ id, past.isOpen id = false
  | .inside id q reply =>
    past.isOpen id = true ∧ reply = ((past.alone start.committed id).answer q).1
  | .ended id _ => past.isOpen id = true
  | .outside q reply =>
    (q.isWrite = true → (∃ id, past.isOpen id = true) →
      reply = .error (.lockTimeout start.settings.lockTimeout)) ∧
    ((q.isWrite = true → ∀ id, past.isOpen id = false) →
      reply = ((past.committed start.committed).answer q).1)
  | .page view q reply => reply = ((past.seen start.committed view).answer q).1

/-! ## 1. A step of the store and its history -/

/-- A store and its history agree. Nothing was committed since the open section began (`base`). -/
structure Tracks (start : Store) (h : History) (s : Store) : Prop where
  settings : s.settings = start.settings
  committed : s.committed = h.committed start.committed
  fresh : ∀ x ∈ h, ∀ id, s.nextSection ≤ id →
    x.begins id = false ∧ x.ends id = false ∧ x.callOf id = none
  isOpen : ∀ id, h.isOpen id = true ↔ s.openId = some id
  alone : ∀ id, s.openId = some id → s.seen (some id) = h.alone start.committed id
  base : ∀ id, s.openId = some id → (h.untilBegin id).committed start.committed = s.committed

namespace History

variable {h : History} {x : Happening}

theorem isOpen_snoc (id : SectionId) :
    (h ++ [x]).isOpen id = ((h.any (·.begins id) || x.begins id) &&
      !(h.any (·.ends id) || x.ends id)) := by
  simp [isOpen]

theorem calls_snoc (id : SectionId) : (h ++ [x]).calls id = h.calls id ++ (x.callOf id).toList := by
  simp only [calls, List.filterMap_append, List.filterMap_cons, List.filterMap_nil]
  cases x.callOf id <;> rfl

/-- What something commits does not change when `x` is no call of a section that has ended. -/
theorem serial_snoc (late : ∀ id, h.any (·.ends id) = true → x.callOf id = none) :
    (h ++ [x]).serial = h.serial ++ (h ++ [x]).committedBy x := by
  have same : ∀ y ∈ h, (h ++ [x]).committedBy y = h.committedBy y := by
    intro y member
    match y with
    | .ended id .commit =>
      have ended : h.any (·.ends id) = true :=
        List.any_eq_true.mpr ⟨_, member, by simp [Happening.ends]⟩
      simp only [committedBy, calls_snoc, late id ended, Option.toList_none, List.append_nil]
    | .ended _ .rollback | .ended _ .drop | .begin _ | .inside _ _ _ | .page _ _ _ => rfl
    | .outside _ (.ok _) | .outside _ (.error _) => rfl
  simp only [serial, List.flatMap_append, List.flatMap_cons, List.flatMap_nil, List.append_nil]
  rw [List.flatMap_def, List.map_congr_left same, ← List.flatMap_def]

theorem untilBegin_snoc {id : SectionId} (begun : h.any (·.begins id) = true) :
    (h ++ [x]).untilBegin id = h.untilBegin id := by
  induction h with
  | nil => cases begun
  | cons y rest ih =>
    simp only [untilBegin, List.cons_append, List.takeWhile_cons] at ih ⊢
    cases first : y.begins id with
    | true => simp
    | false =>
      simp only [List.any_cons, first, Bool.false_or] at begun
      simp [ih begun]

theorem untilBegin_fresh {id : SectionId} (absent : ∀ y ∈ h, y.begins id = false)
    (begins : x.begins id = true) : (h ++ [x]).untilBegin id = h := by
  rw [untilBegin, List.takeWhile_append_of_pos (by simpa using absent)]
  simp [begins]

end History

theorem tracks_new {s : Store} (free : s.free = true) : Tracks s [] s where
  settings := rfl
  committed := rfl
  fresh _ member := nomatch member
  isOpen id := by simp [History.isOpen, free_iff.mp free]
  alone id opened := by simp [free_iff.mp free] at opened
  base id opened := by simp [free_iff.mp free] at opened

namespace Tracks

variable {start s : Store} {h : History} {x : Happening}

/-- In an open section something has begun. -/
theorem begun {id : SectionId} (t : Tracks start h s) (opened : s.openId = some id) :
    h.any (·.begins id) = true := by
  have isOpen := (t.isOpen id).mpr opened
  simp only [History.isOpen, Bool.and_eq_true] at isOpen
  exact isOpen.1

/-- An open section has not ended. -/
theorem notEnded {id : SectionId} (t : Tracks start h s) (opened : s.openId = some id) :
    h.any (·.ends id) = false := by
  have isOpen := (t.isOpen id).mpr opened
  simp only [History.isOpen, Bool.and_eq_true, Bool.not_eq_true'] at isOpen
  exact isOpen.2

/-- An open section is older than all that are still to begin. -/
theorem older {id other : SectionId} (t : Tracks start h s) (opened : s.openId = some id)
    (later : s.nextSection ≤ other) : id ≠ other := by
  rintro rfl
  obtain ⟨y, member, begins⟩ := List.any_eq_true.mp (t.begun opened)
  rw [(t.fresh y member id later).1] at begins
  cases begins

/-- Something that begins, calls and ends nothing commits writes only when no section is open. -/
theorem outside (t : Tracks start h s) (begins : ∀ id, x.begins id = false)
    (ends : ∀ id, x.ends id = false) (calls : ∀ id, x.callOf id = none)
    (commits : (h ++ [x]).committedBy x = [] ∨ s.free = true) :
    Tracks start (h ++ [x])
      { s with committed := s.committed.apply ((h ++ [x]).committedBy x) } := by
  have serial := History.serial_snoc (h := h) (x := x) fun id _ => calls id
  have nothing : ∀ {id}, s.openId = some id → (h ++ [x]).committedBy x = [] := by
    intro id opened
    rcases commits with none | free
    · exact none
    · rw [free_iff.mp free] at opened
      cases opened
  refine ⟨t.settings, ?_, ?_, ?_, ?_, ?_⟩
  · simp only [History.committed, serial, Contents.apply_append]
    rw [t.committed]
    rfl
  · intro y member id old
    rcases List.mem_append.mp member with earlier | now
    · exact t.fresh y earlier id old
    · obtain rfl := List.mem_singleton.mp now
      exact ⟨begins id, ends id, calls id⟩
  · intro id
    have same := t.isOpen id
    rw [History.isOpen_snoc, begins, ends, Bool.or_false, Bool.or_false]
    exact same
  · -- While a section is open nothing is committed, so what it sees stays as it is.
    intro id opened
    simp only [History.alone, History.calls_snoc, calls, Option.toList_none, List.append_nil,
      History.untilBegin_snoc (t.begun opened), nothing opened]
    exact t.alone id opened
  · intro id opened
    rw [History.untilBegin_snoc (t.begun opened)]
    simp only [nothing opened]
    exact t.base id opened

/-- A section begins in an empty place. -/
theorem begin (t : Tracks start h s) (free : s.free = true) :
    Tracks start (h ++ [Happening.begin (.ok s.nextSection)]) s.opening.2 := by
  have unknown : ∀ y ∈ h, y.begins s.nextSection = false ∧ y.ends s.nextSection = false ∧
      y.callOf s.nextSection = none :=
    fun y member => t.fresh y member s.nextSection (Nat.le_refl _)
  have serial := History.serial_snoc (h := h) (x := Happening.begin (.ok s.nextSection))
    fun _ _ => rfl
  have committed : (h ++ [Happening.begin (.ok s.nextSection)]).committed start.committed =
      s.committed := by
    rw [History.committed, serial, t.committed]
    exact congrArg start.committed.apply (List.append_nil h.serial)
  have begins : (Happening.begin (.ok s.nextSection)).begins s.nextSection = true :=
    decide_eq_true rfl
  have untilBegin := History.untilBegin_fresh (fun y member => (unknown y member).1) begins
  have noCalls : h.calls s.nextSection = [] := by
    rw [History.calls, List.filterMap_eq_nil_iff]
    exact fun y member => (unknown y member).2.2
  refine ⟨t.settings, committed.symm, ?_, ?_, ?_, ?_⟩
  · intro y member id old
    rcases List.mem_append.mp member with earlier | now
    · exact t.fresh y earlier id (Nat.le_of_succ_le old)
    · obtain rfl := List.mem_singleton.mp now
      exact ⟨decide_eq_false (Nat.ne_of_lt old), rfl, rfl⟩
  · intro id
    have ends : (Happening.begin (.ok s.nextSection)).ends id = false := rfl
    have opened : s.opening.2.openId = some s.nextSection := rfl
    rw [History.isOpen_snoc, ends, opened, Option.some.injEq]
    by_cases same : s.nextSection = id
    · subst same
      have notEnded : h.any (·.ends s.nextSection) = false := by
        rw [List.any_eq_false]
        intro y member
        rw [(unknown y member).2.1]
        exact Bool.false_ne_true
      simp only [notEnded, begins, Bool.or_true, Bool.or_false, Bool.not_false, Bool.and_true]
    · have notBegun : (Happening.begin (.ok s.nextSection)).begins id = false :=
        decide_eq_false same
      have closed := t.isOpen id
      rw [free_iff.mp free, History.isOpen] at closed
      simp only [notBegun, Bool.or_false, closed, same, reduceCtorEq]
  · intro id opened
    obtain rfl : s.nextSection = id := Option.some.inj opened
    have seen : s.opening.2.seen (some s.nextSection) = s.committed := by
      simp [seen, copyOf, opening]
    rw [seen, History.alone, untilBegin, ← t.committed, History.calls_snoc, noCalls]
    rfl
  · intro id opened
    obtain rfl : s.nextSection = id := Option.some.inj opened
    rw [untilBegin, ← t.committed]
    rfl

/-- A call in the open section changes what the section sees. -/
theorem inside (t : Tracks start h s) {id : SectionId} (opened : s.openId = some id) {q : Request}
    {reply : Except Failure q.Reply} {copy : Option Contents}
    (after : copy.getD s.committed = ((s.seen (some id)).answer q).2) :
    Tracks start (h ++ [Happening.inside id q reply]) { s with opened := some ⟨id, copy⟩ } := by
  have call : (Happening.inside id q reply).callOf id = some q := if_pos rfl
  have serial := History.serial_snoc (h := h) (x := Happening.inside id q reply)
    fun other ended => by
      refine if_neg ?_
      rintro rfl
      rw [t.notEnded opened] at ended
      cases ended
  refine ⟨t.settings, ?_, ?_, ?_, ?_, ?_⟩
  · rw [History.committed, serial]
    exact t.committed.trans (congrArg start.committed.apply (List.append_nil h.serial).symm)
  · intro y member other new
    rcases List.mem_append.mp member with earlier | now
    · exact t.fresh y earlier other new
    · obtain rfl := List.mem_singleton.mp now
      exact ⟨rfl, rfl, if_neg (t.older opened new)⟩
  · intro other
    have same := t.isOpen other
    rw [opened, History.isOpen] at same
    rw [History.isOpen_snoc, show (Happening.inside id q reply).begins other = false from rfl,
      show (Happening.inside id q reply).ends other = false from rfl, Bool.or_false, Bool.or_false]
    exact same
  · intro other now
    obtain rfl : id = other := Option.some.inj now
    rw [seen_opened, after, t.alone id opened, History.alone, History.alone,
      History.untilBegin_snoc (t.begun opened), History.calls_snoc, call, Contents.apply_append]
    rfl
  · intro other now
    obtain rfl : id = other := Option.some.inj now
    rw [History.untilBegin_snoc (t.begun opened)]
    exact t.base id opened

/-- A section that ends commits its writes or none. -/
theorem ended (t : Tracks start h s) {id : SectionId} (opened : s.openId = some id)
    (closing : Closing) :
    Tracks start (h ++ [Happening.ended id closing])
      { s with
        committed := s.committed.apply
          ((h ++ [Happening.ended id closing]).committedBy (.ended id closing))
        opened := none } := by
  have serial := History.serial_snoc (h := h) (x := Happening.ended id closing) fun _ _ => rfl
  refine ⟨t.settings, ?_, ?_, ?_, ?_, ?_⟩
  · simp only [History.committed, serial, Contents.apply_append]
    rw [t.committed]
    rfl
  · intro y member other new
    rcases List.mem_append.mp member with earlier | now
    · exact t.fresh y earlier other new
    · obtain rfl := List.mem_singleton.mp now
      exact ⟨rfl, decide_eq_false (t.older opened new), rfl⟩
  · intro other
    have same := t.isOpen other
    rw [opened, Option.some.injEq, History.isOpen] at same
    have nothing : (Happening.ended id closing).begins other = false := rfl
    have closed : ({ s with
        committed := s.committed.apply
          ((h ++ [Happening.ended id closing]).committedBy (.ended id closing))
        opened := none } : Store).openId = none := rfl
    rw [History.isOpen_snoc, nothing, Bool.or_false, closed]
    by_cases eq : id = other
    · have ends : (Happening.ended id closing).ends other = true := decide_eq_true eq
      simp only [ends, Bool.or_true, Bool.not_true, Bool.and_false, reduceCtorEq]
    · have ends : (Happening.ended id closing).ends other = false := decide_eq_false eq
      simp only [ends, Bool.or_false, same, eq, reduceCtorEq]
  · intro other now
    cases now
  · intro other now
    cases now

/-- What a view shows is what the history says. -/
theorem seen (t : Tracks start h s) (view : View) : s.seen view = h.seen start.committed view := by
  cases view with
  | none => exact t.committed
  | some id =>
    by_cases opened : s.openId = some id
    · rw [History.seen, if_pos ((t.isOpen id).mpr opened)]
      exact t.alone id opened
    · rw [History.seen, if_neg fun isOpen => opened ((t.isOpen id).mp isOpen), ← t.committed]
      exact seen_of_not_open opened

/-- No section is open exactly when none has begun and not ended. -/
theorem free_iff (t : Tracks start h s) : s.free = true ↔ ∀ id, h.isOpen id = false := by
  rw [Store.free_iff]
  constructor
  · intro free id
    rw [← Bool.not_eq_true, t.isOpen id, free]
    exact fun same => nomatch same
  · intro closed
    cases opened : s.openId with
    | none => rfl
    | some id =>
      have isOpen := (t.isOpen id).mpr opened
      rw [closed id] at isOpen
      cases isOpen

/-- A section that commits leaves its writes, applied to the committed contents. -/
theorem commit (t : Tracks start h s) {id : SectionId} (opened : s.openId = some id) :
    Tracks start (h ++ [Happening.ended id .commit]) s.commit := by
  obtain ⟨copy, stored⟩ := openId_eq_some.mp opened
  have commits : (h ++ [Happening.ended id .commit]).committedBy (.ended id .commit) =
      (h.calls id).filter Request.isWrite := by
    have none : (Happening.ended id .commit).callOf id = none := rfl
    rw [History.committedBy, History.calls_snoc, none]
    exact congrArg (List.filter Request.isWrite) (List.append_nil (h.calls id))
  -- Nothing was committed since the section began, so its copy is built on what is committed now.
  have writes : copy.getD s.committed =
      s.committed.apply ((h.calls id).filter Request.isWrite) := by
    have alone := t.alone id opened
    rw [History.alone, t.base id opened] at alone
    rw [Contents.apply_filter_isWrite, ← alone, Store.seen, copyOf, stored]
    simp
  have result := t.ended opened .commit
  rw [commits, ← writes] at result
  rw [Store.commit, stored]
  exact result

/-- A call outside sections reads what is committed, is refused, or commits its own write. -/
theorem call (t : Tracks start h s) {s' : Store} {q : Request} {reply : Except Failure q.Reply}
    (result : s.request none q = (reply, s')) :
    Tracks start (h ++ [Happening.outside q reply]) s' := by
  have calm : ∀ reply, (h ++ [Happening.outside q reply]).committedBy (.outside q reply) = [] ∨
      s.free = true → Tracks start (h ++ [Happening.outside q reply]) { s with
        committed := s.committed.apply
          ((h ++ [Happening.outside q reply]).committedBy (.outside q reply)) } :=
    fun reply => t.outside (fun _ => rfl) (fun _ => rfl) (fun _ => rfl)
  cases write : q.isWrite with
  | false =>
    rw [request_read write none] at result
    cases result
    have nothing : (h ++ [Happening.outside q ((s.seen none).answer q).1]).committedBy
        (.outside q ((s.seen none).answer q).1) = [] := by
      simp only [History.committedBy]
      split <;> simp_all
    have same := calm _ (.inl nothing)
    rw [nothing] at same
    exact same
  | true =>
    cases free : s.free with
    | false =>
      rw [request_refused write free] at result
      cases result
      exact calm _ (.inl rfl)
    | true =>
      rw [request_outside fun _ => free] at result
      cases result
      -- A write that fails changes nothing, so it does not matter that it commits none.
      have commits : (s.committed.answer q).2 = s.committed.apply
          ((h ++ [Happening.outside q (s.committed.answer q).1]).committedBy
            (.outside q (s.committed.answer q).1)) := by
        simp only [History.committedBy]
        cases answer : (s.committed.answer q).1 with
        | ok reply => simp [write, Contents.apply]
        | error failure => exact Contents.answer_error answer
      rw [commits]
      exact calm _ (.inr free)

end Tracks

/-- A step and its history stay in agreement. -/
theorem tracks_step {start s s' : Store} {h : History} {x : Happening} (t : Tracks start h s)
    (step : Step s x s') : Tracks start (h ++ [x]) s' := by
  cases step with
  | begin result =>
    rw [Store.begin] at result
    split at result
    · rename_i free
      cases result
      exact t.begin free
    · cases result
      exact t.outside (fun _ => rfl) (fun _ => rfl) (fun _ => rfl) (.inl rfl)
  | inside opened result =>
    obtain ⟨copy, request, after⟩ := request_inside opened _
    rw [request] at result
    cases result
    exact t.inside opened after
  | commit opened => exact t.commit opened
  | rollback opened => exact t.ended opened .rollback
  | drop opened => exact t.ended opened .drop
  | outside result => exact t.call result
  | @page _ view q reply paged result =>
    rw [request_read (Request.not_isWrite paged) view] at result
    cases result
    exact t.outside (fun _ => rfl) (fun _ => rfl) (fun _ => rfl) (.inl rfl)

/-! ## 2. Runs -/

/-- A step answers as the history says. -/
theorem answered_step {start s s' : Store} {h : History} {x : Happening} (t : Tracks start h s)
    (step : Step s x s') : Answered start h x := by
  cases step with
  | begin result =>
    rw [Store.begin] at result
    split at result
    · rename_i free
      cases result
      exact ⟨fun _ => t.free_iff.mp free, fun _ => rfl⟩
    · rename_i taken
      cases result
      exact ⟨(by cases ·), fun closed => absurd (t.free_iff.mpr closed) taken⟩
  | @inside _ id q reply opened result =>
    obtain ⟨copy, request, -⟩ := request_inside opened q
    rw [request] at result
    cases result
    refine ⟨(t.isOpen id).mpr opened, ?_⟩
    rw [t.alone id opened]
  | commit opened => exact (t.isOpen _).mpr opened
  | rollback opened => exact (t.isOpen _).mpr opened
  | drop opened => exact (t.isOpen _).mpr opened
  | @outside _ q reply result =>
    constructor
    · rintro write ⟨id, isOpen⟩
      have taken : s.free = false := by
        rw [← Bool.not_eq_true, t.free_iff]
        intro closed
        rw [closed id] at isOpen
        cases isOpen
      rw [request_refused write taken, t.settings] at result
      exact (congrArg Prod.fst result).symm
    · intro closed
      rw [request_outside fun write => t.free_iff.mpr (closed write), t.committed] at result
      exact (congrArg Prod.fst result).symm
  | @page _ view q reply paged result =>
    rw [request_read (Request.not_isWrite paged) view, t.seen view] at result
    exact (congrArg Prod.fst result).symm

theorem tracks_run {start s : Store} {h : History} (free : start.free = true)
    (run : Run start h s) : Tracks start h s := by
  induction run with
  | nil => exact tracks_new free
  | snoc _ step ih => exact tracks_step ih step

/-- Whatever interleaving happens at a store in which no section is open, the committed contents are
those of the committed sections and writes one after the other, and each answer is that of a section
alone or of the committed contents of its moment. -/
theorem run_serializable {start s : Store} {h : History} (free : start.free = true)
    (run : Run start h s) :
    s.committed = h.committed start.committed ∧
      ∀ past x future, h = past ++ x :: future → Answered start past x := by
  refine ⟨(tracks_run free run).committed, ?_⟩
  induction run with
  | nil => exact fun past x future split => absurd split (by simp)
  | @snoc h s s' last earlier step ih =>
    intro past x future split
    rcases snoc_eq_append_cons.mp split with ⟨rfl, rfl, -⟩ | ⟨front, -, before⟩
    · exact answered_step (tracks_run free earlier) step
    · exact ih past x front before

/-- A section queues a task while a write from outside is refused and a read from outside finds
nothing; a second section is given up, and its cursor finds what the first one left. -/
theorem run_serializable_two_sections :
    ∃ (h : History) (s : Store), (Store.new .inMemory).free = true ∧ Run (.new .inMemory) h s ∧
      h.serial = [.queue [default]] ∧ s.size = 1 ∧
      s.committed = h.committed (Store.new .inMemory).committed ∧
      ∀ past x future, h = past ++ x :: future → Answered (.new .inMemory) past x := by
  have first := Run.nil.snoc (Step.begin (s := .new .inMemory) rfl)
  have queued := first.snoc (.inside (q := .queue [default]) rfl rfl)
  have refused := queued.snoc (.outside (q := .setRateLimit "mail" 1) rfl)
  have unseen := refused.snoc (.outside (q := .get default) rfl)
  have seen := unseen.snoc (.page (v := some 0) (q := .count (.pending none)) rfl rfl)
  have committed := seen.snoc (.commit rfl)
  have second := committed.snoc (.begin rfl)
  have removed := second.snoc (.inside (q := .remove default) rfl rfl)
  have empty := removed.snoc (.page (v := some 1) (q := .count (.pending none)) rfl rfl)
  have dropped := empty.snoc (.drop rfl)
  have outlived := dropped.snoc (.page (v := some 1) (q := .count (.pending none)) rfl rfl)
  exact ⟨_, _, rfl, outlived, rfl, rfl, run_serializable rfl outlived⟩

end Store

end TaskQueue
