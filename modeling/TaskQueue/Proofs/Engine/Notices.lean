import TaskQueue.Proofs.Engine.Wakeup
import TaskQueue.Proofs.Store.Listings

/-!
# Observers hear what was committed

Anyone may ask something of an engine at any time: callers carry out orders, others wait for a task,
some are told to give up or go away, sections stand open in their way, and observers come and go. An
order that comes to its end is written down as a `Conclusion`, with its answer, the contents around
its last step and the observers of that moment. What they are told of it can be read off that
(`Conclusion.Tells`).

Results:
1. `Order.exec_tells`: what follows from an order is what observers are to be told of it.
2. `Call.step_conducts`, `Acquirer.step_reports`: a step tells observers of what it concludes, and
   of nothing else.
3. `Office.Run.reports`: so does a run, whatever the interleaving.
4. `Office.Run.retold`: with other observers, or none, the same run is possible.
5. `Office.Run.heard_in_order`: each observer hears in order all that is concluded in its presence,
   whoever breaks down over what.
-/

namespace TaskQueue

/-! ## 1. Conclusions -/

/-- An order that has come to its end: its answer, the contents before and after the step with which
it ended, and who observed the engine then. -/
structure Conclusion where
  order : Order
  answer : Except Failure Order.Answer
  before : Contents
  after : Contents
  observers : List Observer

/-- Whether observers are told nothing of an order, whatever it does. -/
def Order.isSilent : Order → Bool
  | .requeueAll => true
  | .cancelByReference _ => true
  | .setRateLimit _ _ => true
  | .setMaxRetries _ _ => true
  | _ => false

namespace Conclusion

/-- What observers are told: of a batch each task as it was submitted, in state queued; of a task
that was taken, tried again or failed the record that is stored now; of one that left the record
that was stored before. -/
inductive Tells : Conclusion → List Event → Prop
  | submitted {batch : List Task} {c d : Contents} {os : List Observer} :
      Tells ⟨.submitAll batch, .ok (.ids (batch.map Task.id)), c, d, os⟩
        (batch.map fun task => .submitted { task with state := .queued })
  | acquired {now : UInt64} {task : Task} {c d : Contents} {os : List Observer} :
      d.tasks.get? task.id = some task →
      Tells ⟨.acquire now, .ok (.task (some task)), c, d, os⟩ [.acquired task]
  | missed {now : UInt64} {c d : Contents} {os : List Observer} :
      Tells ⟨.acquire now, .ok (.task none), c, d, os⟩ []
  | completed {now : UInt64} {id : TaskId} {task : Task} {c d : Contents} {os : List Observer} :
      c.tasks.get? id = some task →
      Tells ⟨.acknowledge now id, .ok (.flag true), c, d, os⟩ [.done task .completed]
  | unknown {now : UInt64} {id : TaskId} {c d : Contents} {os : List Observer} :
      Tells ⟨.acknowledge now id, .ok (.flag false), c, d, os⟩ []
  | cancelled {id : TaskId} {task : Task} {c d : Contents} {os : List Observer} :
      c.tasks.get? id = some task →
      Tells ⟨.cancel id false, .ok (.flag true), c, d, os⟩ [.done task .cancelled]
  | requeued {id : TaskId} {task : Task} {c d : Contents} {os : List Observer} :
      d.tasks.get? id = some task → task.state = .queued →
      Tells ⟨.cancel id true, .ok (.flag true), c, d, os⟩ [.done task .requeued]
  | failed {id : TaskId} {task : Task} {c d : Contents} {os : List Observer} :
      d.tasks.get? id = some task → task.state = .error →
      Tells ⟨.cancel id true, .ok (.flag true), c, d, os⟩ [.done task .failed]
  | unchanged {id : TaskId} {requeue : Bool} {c d : Contents} {os : List Observer} :
      Tells ⟨.cancel id requeue, .ok (.flag false), c, d, os⟩ []
  | silent {order : Order} {answer : Order.Answer} {c d : Contents} {os : List Observer} :
      order.isSilent = true → Tells ⟨order, .ok answer, c, d, os⟩ []
  | refused {order : Order} {failure : Failure} {c d : Contents} {os : List Observer} :
      Tells ⟨order, .error failure, c, d, os⟩ []

end Conclusion

/-- The events that follow an order, none if it failed. -/
def told : Except Failure (Order.Answer × Aftermath) → List Event
  | .ok (_, after) => after.events
  | .error _ => []

namespace Order

variable {c : Contents} {os : List Observer}

theorem exec_tells (h : c.WellFormed) (settings : CursorSettings) (bound : Nat) (order : Order) :
    Conclusion.Tells ⟨order, (order.exec settings bound c).1.map Prod.fst, c,
      (order.exec settings bound c).2, os⟩ (told (order.exec settings bound c).1) := by
  cases order with
  | submitAll batch =>
    rw [exec, operation, Operation.map_exec, Operation.submitAll_exec]
    cases c.queue batch with
    | error failure => exact .refused
    | ok d => exact .submitted
  | acquire now =>
    rw [exec, operation, Operation.map_exec]
    rcases Operation.acquire_exec h settings bound now with
      result | ⟨task, -, -, -, result⟩
    · rw [result]
      exact .missed
    · rw [result]
      exact .acquired ((Contents.get?_put c _ _).trans (if_pos rfl))
  | acknowledge now id =>
    rw [exec, operation, Operation.map_exec]
    cases found : c.tasks.get? id with
    | none =>
      rw [Operation.acknowledge_unknown found]
      exact .unknown
    | some task =>
      obtain ⟨estimates, result⟩ := Operation.acknowledge_exec found now
      rw [result]
      exact .completed found
  | cancel id requeue =>
    rw [exec, operation, Operation.map_exec]
    cases found : c.tasks.get? id with
    | none =>
      rw [Operation.cancel_unknown found]
      exact .unchanged
    | some task =>
      obtain rfl := h.keyed found
      rw [Operation.cancel_exec found]
      cases requeue with
      | false => exact .cancelled found
      | true =>
        rw [if_neg (by simp)]
        split
        · exact .unchanged
        · rw [Operation.retry_exec found]
          simp only
          split
          · exact .failed ((Contents.get?_put c _ _).trans (if_pos rfl)) rfl
          split
          · exact .refused
          · exact .requeued ((Contents.get?_put c _ _).trans (if_pos rfl)) rfl
  | requeueAll =>
    rw [exec, operation, Operation.map_exec]
    rcases Operation.requeueAll_exec h settings bound with ⟨failure, result⟩ | ⟨tasks, -, result⟩
    · rw [result]
      exact .refused
    · rw [result]
      exact .silent rfl
  | cancelByReference reference => exact .silent rfl
  | setRateLimit tag limit => exact .silent rfl
  | setMaxRetries tag limit => exact .silent rfl

/-- A write that is refused ends the order, and with it nothing is told. -/
theorem refuse_tells {order : Order} {settings : CursorSettings} {bound : Nat}
    (outside : (order.operation settings bound).isolated = false) (failure : Failure) :
    ∃ result, (order.operation settings bound).body.run.refuse failure = .done result ∧
      ∀ c, Conclusion.Tells ⟨order, result.map Prod.fst, c, c, os⟩ (told result) := by
  cases order with
  | submitAll batch =>
    cases batch with
    | nil => exact ⟨_, rfl, fun _ => .submitted⟩
    | cons task rest => exact ⟨.error failure, rfl, fun _ => .refused⟩
  | cancelByReference _ | setRateLimit _ _ | setMaxRetries _ _ =>
    exact ⟨.error failure, rfl, fun _ => .refused⟩
  | acquire _ | acknowledge _ _ | cancel _ _ | requeueAll => cases outside

end Order

/-! ## 2. What a step tells -/

/-- A conclusion with what its observers are told. -/
structure News where
  conclusion : Conclusion
  events : List Event
  tells : conclusion.Tells events

/-- The notices that its observers take. -/
def News.notices (x : News) : List Notice :=
  Observer.notify x.conclusion.observers x.events

/-- From one moment to another observers were told of some conclusions in their order, and of
nothing else. -/
def Engine.Reports (e : Engine) (concluded : List Conclusion) (e' : Engine) : Prop :=
  ∃ news : List News, news.map News.conclusion = concluded ∧
    e'.notices = e.notices ++ news.flatMap News.notices

namespace Engine

variable {e e' e'' : Engine} {x : Conclusion} {concluded more : List Conclusion}
  {events : List Event}

theorem reports_nothing (notices : e'.notices = e.notices) : e.Reports [] e' :=
  ⟨[], rfl, notices.trans (List.append_nil _).symm⟩

theorem reports_one (tells : x.Tells events)
    (notices : e'.notices = e.notices ++ Observer.notify x.observers events) : e.Reports [x] e' :=
  ⟨[⟨x, events, tells⟩], rfl, notices.trans (congrArg _ (List.flatMap_singleton _ _).symm)⟩

theorem Reports.append (first : e.Reports concluded e') (second : e'.Reports more e'') :
    e.Reports (concluded ++ more) e'' := by
  obtain ⟨news, rfl, notices⟩ := first
  obtain ⟨later, rfl, notices'⟩ := second
  refine ⟨news ++ later, List.map_append, ?_⟩
  rw [notices', notices, List.flatMap_append, List.append_assoc]

end Engine

namespace Call

/-- A call on its way to carry out a certain order. -/
def Carries (order : Order) : Call Order.Answer → Prop
  | .starting op => ∃ settings bound, op = order.operation settings bound
  | .entering body _ => ∃ settings bound, (order.operation settings bound).isolated = true ∧
    body = (order.operation settings bound).body
  | .writing rest _ => ∃ settings bound, (order.operation settings bound).isolated = false ∧
    rest = (order.operation settings bound).body.run
  | .finished _ => True

/-- What a call concludes with the step that leads to it: its order, if it is over. -/
def conclusions (order : Order) (e e' : Engine) (c : Call Order.Answer) : List Conclusion :=
  c.result?.toList.map fun answer =>
    ⟨order, answer, e.store.committed, e'.store.committed, e.observers⟩

variable {e e' : Engine} {s : Store} {c c' : Call Order.Answer} {order : Order}
  {settings : CursorSettings} {bound now : Nat}

theorem Carries.fits (carries : c.Carries order) : c.Fits := by
  cases c with
  | starting op =>
    obtain ⟨settings, bound, rfl⟩ := carries
    exact Operation.isOrder_operation order settings bound
  | entering body limit =>
    obtain ⟨settings, bound, -, rfl⟩ := carries
    exact ⟨_, Operation.isOrder_operation order settings bound, rfl⟩
  | writing rest limit =>
    obtain ⟨settings, bound, outside, rfl⟩ := carries
    exact ⟨_, Operation.isOrder_operation order settings bound, outside, rfl⟩
  | finished _ => exact trivial

/-- What a call does in a step it concludes and reports, and it goes on with its order. -/
def Conducts (order : Order) (e : Engine) (r : Engine × Call Order.Answer) : Prop :=
  e.Reports (r.2.conclusions order e r.1) r.1 ∧ r.2.Carries order

theorem conclude_conducts {result : Except Failure (Order.Answer × Aftermath)}
    (tells : Conclusion.Tells ⟨order, result.map Prod.fst, e.store.committed, s.committed,
      e.observers⟩ (told result)) : Conducts order e (conclude { e with store := s } result) := by
  cases result with
  | error failure => exact ⟨Engine.reports_one tells (List.append_nil _).symm, trivial⟩
  | ok answer =>
    refine ⟨Engine.reports_one ?_ rfl, trivial⟩
    show Conclusion.Tells ⟨order, .ok answer.1, e.store.committed,
      (Engine.conclude { e with store := s } answer.2).store.committed, e.observers⟩
      answer.2.events
    rw [Order.conclude_committed]
    exact tells

theorem proceed_conducts (h : e.store.committed.WellFormed)
    (outside : (order.operation settings bound).isolated = false) (now : Nat) :
    Conducts order e (proceed now e (order.operation settings bound).body.run) := by
  have brief := (Operation.isOrder_operation order settings bound).brief outside
  have tells := @Order.exec_tells _ e.observers h settings bound order
  unfold Order.exec at tells
  unfold proceed
  cases asks : (order.operation settings bound).body.run with
  | done result =>
    rw [asks] at tells
    exact conclude_conducts tells
  | ask q next =>
    rw [asks] at tells brief
    cases taken : q.isWrite && !e.store.free with
    | true =>
      simp only [Store.proceed, taken, if_true]
      exact ⟨Engine.reports_nothing rfl, settings, bound, outside, asks.symm⟩
    | false =>
      have request : e.store.request none q = e.store.answer none q := by
        rw [Store.request, if_neg (by simpa using taken)]
      have enabled : q.isWrite = true → e.store.free = true := by
        intro write
        simpa [write] using taken
      rw [Store.request_outside enabled] at request
      obtain ⟨result, ends⟩ := brief (e.store.committed.answer q).1
      rw [Program.exec, ends] at tells
      simp only [Store.proceed, taken, Bool.false_eq_true, if_false, ← request, ends]
      exact conclude_conducts tells

theorem refuse_conducts (outside : (order.operation settings bound).isolated = false) (now : Nat)
    (failure : Failure) :
    Conducts order e
      (proceed now e ((order.operation settings bound).body.run.refuse failure)) := by
  obtain ⟨result, ends, tells⟩ := Order.refuse_tells outside failure
  rw [ends]
  exact conclude_conducts (tells e.store.committed)

theorem isolated_conducts (h : e.store.committed.WellFormed) (free : e.store.free = true) :
    Conducts order e (conclude
      { e with store := (e.store.isolated (order.operation settings bound).body).2 }
      (e.store.isolated (order.operation settings bound).body).1) := by
  have kept := Operation.OfOrder.exec_kept ⟨order, settings, bound, rfl⟩ h
  refine conclude_conducts ?_
  rw [Store.isolated_eq free]
  simp only [kept]
  exact Order.exec_tells h settings bound order

theorem step_conducts (carries : c.Carries order) (h : e.store.committed.WellFormed)
    (step : c.step now e = some (e', c')) : Conducts order e (e', c') := by
  have nothing : e.Reports [] e := Engine.reports_nothing rfl
  cases step_does step with
  | waits isolated =>
    obtain ⟨settings, bound, rfl⟩ := carries
    exact ⟨nothing, settings, bound, isolated, rfl⟩
  | starts outside =>
    obtain ⟨settings, bound, rfl⟩ := carries
    exact proceed_conducts h outside now
  | enters free =>
    obtain ⟨settings, bound, -, rfl⟩ := carries
    exact isolated_conducts h free
  | givesUp => exact ⟨Engine.reports_one .refused (List.append_nil _).symm, trivial⟩
  | writes =>
    obtain ⟨settings, bound, outside, rfl⟩ := carries
    exact proceed_conducts h outside now
  | refused =>
    obtain ⟨settings, bound, outside, rfl⟩ := carries
    exact refuse_conducts outside now _

end Call

namespace Acquirer

/-- What someone who acquires concludes with the step that leads to it: an attempt, if they are
done. -/
def conclusions (wall : UInt64) (e e' : Engine) (a : Acquirer) : List Conclusion :=
  a.result?.toList.map fun result =>
    ⟨.acquire wall, result.map .task, e.store.committed, e'.store.committed, e.observers⟩

variable {e e' : Engine} {a a' : Acquirer} {now : Nat} {wall : UInt64}

/-- Of those who have no task observers are told nothing. -/
theorem reports_empty (notices : e'.notices = e.notices)
    (none : ∀ task, a.result? ≠ some (.ok (some task))) :
    e.Reports (a.conclusions wall e e') e' := by
  unfold conclusions
  cases result : a.result? with
  | none => exact Engine.reports_nothing notices
  | some result' =>
    have quiet : e'.notices = e.notices ++ Observer.notify e.observers [] := by
      rw [notices, Observer.notify, List.flatMap_nil, List.append_nil]
    cases result' with
    | error failure => exact Engine.reports_one .refused quiet
    | ok chosen =>
      cases chosen with
      | none => exact Engine.reports_one .missed quiet
      | some task => exact absurd result (none task)

theorem attempt_reports (h : e.store.committed.WellFormed) (free : e.store.free = true)
    (a : Acquirer) (now : Nat) (wall : UInt64) :
    e.Reports ((a.attempt now wall e).2.conclusions wall e (a.attempt now wall e).1)
      (a.attempt now wall e).1 := by
  rw [attempt, Engine.perform, Engine.commit_isolated rfl, Store.isolated_eq free]
  rcases Operation.acquire_exec h e.store.settings.cursor e.rows wall with
    result | ⟨task, -, -, -, result⟩
  · rw [result]
    exact reports_empty (List.append_nil _) (afterMiss_chosen now _ a)
  · rw [result]
    exact Engine.reports_one (.acquired ((Contents.get?_put _ _ _).trans (if_pos rfl))) rfl

theorem step_reports (h : e.store.committed.WellFormed)
    (step : a.step now wall e = some (e', a')) : e.Reports (a'.conclusions wall e e') e' := by
  cases step_does step with
  | givesUp => exact reports_empty rfl nofun
  | enters | retries => exact reports_empty rfl nofun
  | attempts _ free attempt =>
    have reports := attempt_reports h free a now wall
    rwa [attempt] at reports
  | hears => exact reports_empty rfl (wake_chosen e a _)

end Acquirer

/-! ## 3. Runs -/

namespace Store

variable {s s' : Store}

theorem StaysOut.wellFormed (out : s.StaysOut s') (all : ∀ view, (s.seen view).WellFormed)
    (view : View) : (s'.seen view).WellFormed := by
  cases free : s.free with
  | true =>
    have free' : s'.free = true := by rw [Store.free, out.opened]; exact free
    rw [seen_free free']
    exact (out.commits.follows (all none)).wellFormed
  | false =>
    have same : s'.seen view = s.seen view := by
      cases view with
      | none => exact out.taken free
      | some id => simp only [seen, copyOf, out.opened, out.taken free]
    rw [same]
    exact all view

end Store

/-- Someone who has asked something of an engine. -/
inductive Participant
  /-- Someone who carries out an order. -/
  | caller (order : Order) (call : Call Order.Answer)
  /-- Someone who waits for a task. -/
  | seeker (acquirer : Acquirer)

/-- An engine and all who have asked something of it. -/
structure Office where
  engine : Engine
  clients : List Participant

namespace Office

/-- One thing that happens, with what it concludes. -/
inductive Step : Office → List Conclusion → Office → Prop
  | order {e : Engine} {clients : List Participant} {order : Order} {settings : CursorSettings}
      {bound : Nat} :
      Step ⟨e, clients⟩ []
        ⟨e, .caller order (.starting (order.operation settings bound)) :: clients⟩
  | seek {e : Engine} {clients : List Participant} {deadline : Option Nat} :
      Step ⟨e, clients⟩ [] ⟨e, .seeker (.begin e deadline) :: clients⟩
  /-- Someone who waits for a task is told to give up. -/
  | cancel {e : Engine} {before after : List Participant} {a : Acquirer} :
      Step ⟨e, before ++ .seeker a :: after⟩ [] ⟨e, before ++ .seeker a.cancel :: after⟩
  | leave {e : Engine} {before after : List Participant} {client : Participant} :
      Step ⟨e, before ++ client :: after⟩ [] ⟨e, before ++ after⟩
  | call {e e' : Engine} {before after : List Participant} {order : Order}
      {c c' : Call Order.Answer} {now : Nat} : c.step now e = some (e', c') →
      Step ⟨e, before ++ .caller order c :: after⟩ (c'.conclusions order e e')
        ⟨e', before ++ .caller order c' :: after⟩
  | acquire {e e' : Engine} {before after : List Participant} {a a' : Acquirer} {now : Nat}
      {wall : UInt64} : a.step now wall e = some (e', a') →
      Step ⟨e, before ++ .seeker a :: after⟩ (a'.conclusions wall e e')
        ⟨e', before ++ .seeker a' :: after⟩
  /-- Someone else makes a request of the store, or begins or ends a section. -/
  | store {e : Engine} {clients : List Participant} {x : Store.Happening} {s : Store} :
      Store.Step e.store x s → x.IsOffered → Step ⟨e, clients⟩ [] ⟨{ e with store := s }, clients⟩
  | close {e : Engine} {clients : List Participant} : Step ⟨e, clients⟩ [] ⟨e.close, clients⟩
  /-- An observer is added. Whether anyone is to be told of a batch is settled before it is stored,
  so the first observer is not added in the meantime. -/
  | observe {e : Engine} {clients : List Participant} {observer : Observer} :
      (e.observers = [] → ∀ batch rest limit,
        .caller (.submitAll batch) (.writing rest limit) ∉ clients) →
      Step ⟨e, clients⟩ [] ⟨e.observe observer, clients⟩
  | forget {e : Engine} {clients : List Participant} :
      Step ⟨e, clients⟩ [] ⟨e.forgetObservers, clients⟩

/-- Any number of steps, with all that they conclude, in order. -/
inductive Run (start : Office) : List Conclusion → Office → Prop
  | nil : Run start [] start
  | snoc {f g : Office} {concluded news : List Conclusion} : Run start concluded f →
      Step f news g → Run start (concluded ++ news) g

theorem mem_replaced {before after : List Participant} {old new client : Participant}
    (member : client ∈ before ++ new :: after) :
    client = new ∨ client ∈ before ++ old :: after := by
  rcases List.mem_append.mp member with first | last
  · exact .inr (List.mem_append_left _ first)
  · rcases List.mem_cons.mp last with same | later
    · exact .inl same
    · exact .inr (List.mem_append_right _ (List.mem_cons_of_mem old later))

/-- Every view shows well-formed contents, and every caller is on the way with their order. -/
structure Sound (f : Office) : Prop where
  wellFormed : ∀ view, (f.engine.store.seen view).WellFormed
  carries : ∀ order call, .caller order call ∈ f.clients → call.Carries order

variable {f g : Office} {concluded : List Conclusion}

theorem sound_step (sound : f.Sound) (step : f.Step concluded g) :
    g.Sound ∧ f.engine.Reports concluded g.engine := by
  obtain ⟨wellFormed, carries⟩ := sound
  have nothing : f.engine.Reports [] f.engine := Engine.reports_nothing rfl
  cases step with
  | order =>
    refine ⟨⟨wellFormed, fun order call member => ?_⟩, nothing⟩
    rcases List.mem_cons.mp member with same | other
    · cases same
      exact ⟨_, _, rfl⟩
    · exact carries order call other
  | seek =>
    refine ⟨⟨wellFormed, fun order call member => ?_⟩, nothing⟩
    rcases List.mem_cons.mp member with same | other
    · cases same
    · exact carries order call other
  | cancel =>
    refine ⟨⟨wellFormed, fun order call member => ?_⟩, nothing⟩
    rcases mem_replaced member with same | other
    · cases same
    · exact carries order call other
  | leave =>
    refine ⟨⟨wellFormed, fun order call member => carries order call ?_⟩, nothing⟩
    rcases List.mem_append.mp member with first | last
    · exact List.mem_append_left _ first
    · exact List.mem_append_right _ (List.mem_cons_of_mem _ last)
  | @call e e' before after order c c' now step =>
    have own : c.Carries order := carries order c (by simp)
    obtain ⟨reports, goesOn⟩ := Call.step_conducts own (wellFormed none) step
    have out := (Call.step_fits own.fits step).1
    refine ⟨⟨out.wellFormed wellFormed, fun order' call member => ?_⟩, reports⟩
    rcases mem_replaced member with same | other
    · cases same
      exact goesOn
    · exact carries order' call other
  | acquire step =>
    have out := Acquirer.step_staysOut step
    refine ⟨⟨out.wellFormed wellFormed, fun order call member => ?_⟩,
      Acquirer.step_reports (wellFormed none) step⟩
    rcases mem_replaced member with same | other
    · cases same
    · exact carries order call other
  | store step offered =>
    exact ⟨⟨step.keeps offered (fun _ _ h => h.answer) wellFormed, carries⟩,
      Engine.reports_nothing rfl⟩
  | close | forget => exact ⟨⟨wellFormed, carries⟩, Engine.reports_nothing rfl⟩
  | observe _ => exact ⟨⟨wellFormed, carries⟩, Engine.reports_nothing rfl⟩

theorem Run.reports {start : Office} (sound : start.Sound) (run : Run start concluded f) :
    f.Sound ∧ start.engine.Reports concluded f.engine := by
  induction run with
  | nil => exact ⟨sound, Engine.reports_nothing rfl⟩
  | snoc _ step ih =>
    obtain ⟨sound', before⟩ := ih
    obtain ⟨sound'', now⟩ := sound_step sound' step
    exact ⟨sound'', before.append now⟩

end Office

/-! ## 4. Other observers -/

/-- The engine as it is with other observers, who were told something else. -/
def Engine.retold (e : Engine) (others : List Observer) (notices : List Notice) : Engine :=
  { e with observers := others, notices }

section

variable {others : List Observer}

theorem Call.conclude_retold {α : Type} (e : Engine) (notices : List Notice)
    (result : Except Failure (α × Aftermath)) :
    ∃ more, Call.conclude (e.retold others notices) result =
      ((Call.conclude e result).1.retold others more, (Call.conclude e result).2) := by
  cases result with
  | ok answer => exact ⟨_, rfl⟩
  | error failure => exact ⟨_, rfl⟩

theorem Call.proceed_retold (now : Nat) (e : Engine) (notices : List Notice)
    (p : Program (Except Failure (Order.Answer × Aftermath))) :
    ∃ more, Call.proceed now (e.retold others notices) p =
      ((Call.proceed now e p).1.retold others more, (Call.proceed now e p).2) := by
  unfold Call.proceed
  rw [show (e.retold others notices).store = e.store from rfl]
  rcases e.store.proceed p with ⟨progress, store⟩
  cases progress with
  | done result => exact Call.conclude_retold { e with store } notices result
  | blocked rest => exact ⟨notices, rfl⟩

theorem Call.step_retold (now : Nat) (e : Engine) (notices : List Notice)
    (c : Call Order.Answer) :
    ∃ more, c.step now (e.retold others notices) =
      (c.step now e).map fun r => (r.1.retold others more, r.2) := by
  have store : (e.retold others notices).store = e.store := rfl
  have tooLong : tooLong (e.retold others notices) = tooLong e := rfl
  cases c with
  | starting op =>
    simp only [Call.step, store]
    by_cases isolated : op.isolated = true
    · rw [if_pos isolated, if_pos isolated]
      exact ⟨notices, rfl⟩
    · rw [if_neg isolated, if_neg isolated]
      obtain ⟨more, same⟩ := Call.proceed_retold now e notices op.body.run
      exact ⟨more, congrArg some same⟩
  | entering body limit =>
    simp only [Call.step, store]
    by_cases free : e.store.free = true
    · rw [if_pos free, if_pos free]
      obtain ⟨more, same⟩ := Call.conclude_retold
        { e with store := (e.store.isolated body).2 } notices (e.store.isolated body).1
      exact ⟨more, congrArg some same⟩
    rw [if_neg free, if_neg free]
    by_cases late : limit ≤ now
    · rw [if_pos late, if_pos late]
      exact ⟨notices, rfl⟩
    · rw [if_neg late, if_neg late]
      exact ⟨notices, rfl⟩
  | writing rest limit =>
    simp only [Call.step, store, tooLong]
    by_cases free : e.store.free = true
    · rw [if_pos free, if_pos free]
      obtain ⟨more, same⟩ := Call.proceed_retold now e notices rest
      exact ⟨more, congrArg some same⟩
    rw [if_neg free, if_neg free]
    by_cases late : limit ≤ now
    · rw [if_pos late, if_pos late]
      obtain ⟨more, same⟩ := Call.proceed_retold now e notices (rest.refuse (Call.tooLong e))
      exact ⟨more, congrArg some same⟩
    · rw [if_neg late, if_neg late]
      exact ⟨notices, rfl⟩
  | finished result => exact ⟨notices, rfl⟩

theorem Acquirer.attempt_retold (now : Nat) (wall : UInt64) (e : Engine) (notices : List Notice)
    (a : Acquirer) :
    ∃ more, a.attempt now wall (e.retold others notices) =
      ((a.attempt now wall e).1.retold others more, (a.attempt now wall e).2) := by
  unfold Acquirer.attempt Engine.perform
  rw [Engine.commit_isolated rfl, Engine.commit_isolated rfl]
  have store : (e.retold others notices).store = e.store := rfl
  have rows : (e.retold others notices).rows = e.rows := rfl
  rw [store, rows]
  rcases e.store.isolated (Operation.acquire e.store.settings.cursor e.rows wall).body with
    ⟨result, store'⟩
  cases result with
  | error failure => exact ⟨notices, rfl⟩
  | ok answer =>
    obtain ⟨chosen, after⟩ := answer
    cases chosen with
    | none => exact ⟨_, rfl⟩
    | some task => exact ⟨_, rfl⟩

theorem Acquirer.step_retold (now : Nat) (wall : UInt64) (e : Engine) (notices : List Notice)
    (a : Acquirer) :
    ∃ more, a.step now wall (e.retold others notices) =
      (a.step now wall e).map fun r => (r.1.retold others more, r.2) := by
  have store : (e.retold others notices).store = e.store := rfl
  unfold Acquirer.step
  rw [store]
  cases a.stage with
  | trying =>
    by_cases cancelled : a.cancelled = true
    · simp only [if_pos cancelled]
      exact ⟨notices, rfl⟩
    · simp only [if_neg cancelled]
      exact ⟨notices, rfl⟩
  | entering limit =>
    by_cases free : e.store.free = true
    · simp only [if_pos free]
      obtain ⟨more, same⟩ := Acquirer.attempt_retold now wall e notices a
      exact ⟨more, congrArg some same⟩
    by_cases late : limit ≤ now
    · simp only [if_neg free, if_pos late]
      exact ⟨notices, rfl⟩
    · simp only [if_neg free, if_neg late]
      exact ⟨notices, rfl⟩
  | waiting limit =>
    by_cases cancelled : a.cancelled = true
    · simp only [if_pos cancelled]
      exact ⟨notices, rfl⟩
    · simp only [if_neg cancelled, Option.map_map]
      exact ⟨notices, rfl⟩
  | finished result => exact ⟨notices, rfl⟩

/-- The same conclusion among other observers. -/
def Conclusion.among (others : List Observer) (x : Conclusion) : Conclusion :=
  { x with observers := others }

theorem Call.conclusions_retold (order : Order) (e e' : Engine) (notices more : List Notice)
    (c : Call Order.Answer) :
    c.conclusions order (e.retold others notices) (e'.retold others more) =
      (c.conclusions order e e').map (.among others) := by
  unfold conclusions
  rw [List.map_map]
  rfl

theorem Acquirer.conclusions_retold (wall : UInt64) (e e' : Engine) (notices more : List Notice)
    (a : Acquirer) :
    a.conclusions wall (e.retold others notices) (e'.retold others more) =
      (a.conclusions wall e e').map (.among others) := by
  unfold conclusions
  rw [List.map_map]
  rfl

/-- What happens in an office can happen with other observers too. Where one is added or all are
removed, nothing happens with them. -/
theorem Office.Step.retold {start f g : Office} {before concluded : List Conclusion}
    (step : f.Step concluded g) {notices : List Notice}
    (run : start.Run before ⟨f.engine.retold others notices, f.clients⟩) :
    ∃ more, start.Run (before ++ concluded.map (.among others))
      ⟨g.engine.retold others more, g.clients⟩ := by
  cases step with
  | order => exact ⟨notices, run.snoc .order⟩
  | seek => exact ⟨notices, run.snoc .seek⟩
  | cancel => exact ⟨notices, run.snoc .cancel⟩
  | leave => exact ⟨notices, run.snoc .leave⟩
  | @call e e' _ _ order c c' now step =>
    obtain ⟨more, same⟩ := Call.step_retold now e notices c
    rw [step] at same
    rw [← Call.conclusions_retold order e e' notices more]
    exact ⟨more, run.snoc (.call same)⟩
  | @acquire e e' _ _ a a' now wall step =>
    obtain ⟨more, same⟩ := Acquirer.step_retold now wall e notices a
    rw [step] at same
    rw [← Acquirer.conclusions_retold wall e e' notices more]
    exact ⟨more, run.snoc (.acquire same)⟩
  | store step offered => exact ⟨notices, run.snoc (.store step offered)⟩
  | close => exact ⟨notices, run.snoc .close⟩
  | observe _ | forget =>
    rw [List.map_nil, List.append_nil]
    exact ⟨notices, run⟩

theorem Office.Run.retold {start f : Office} {concluded : List Conclusion}
    (run : Office.Run start concluded f) (notices : List Notice) :
    ∃ more, Office.Run ⟨start.engine.retold others notices, start.clients⟩
      (concluded.map (.among others)) ⟨f.engine.retold others more, f.clients⟩ := by
  induction run with
  | nil => exact ⟨notices, .nil⟩
  | snoc _ step ih =>
    obtain ⟨more, before⟩ := ih
    rw [List.map_append]
    exact step.retold before

end

/-! ## 5. What each observer hears -/

/-- What the observers of a name were told, in order. -/
def Engine.heard (e : Engine) (name : String) : List Event :=
  (e.notices.filter fun notice => notice.observer = name).map Notice.event

/-- An event is noted as it is, whether or not the observer breaks down over it. -/
theorem Observer.noted_tell (observer : Observer) (event : Event) :
    noted (observer.tell event) = ⟨observer.name, event⟩ := by
  unfold tell
  split <;> rfl

theorem Observer.notify_eq (observers : List Observer) (events : List Event) :
    notify observers events =
      events.flatMap fun event => observers.map fun observer => ⟨observer.name, event⟩ := by
  simp only [notify, noted_tell]

/-- An observer is told each event once, and those who share a name once each. -/
theorem Observer.heard_notify (observers : List Observer) (events : List Event) (name : String) :
    ((notify observers events).filter fun notice => notice.observer = name).map Notice.event =
      events.flatMap fun event =>
        .replicate (observers.countP fun observer => observer.name = name) event := by
  rw [notify_eq, List.filter_flatMap, List.map_flatMap]
  refine List.flatMap_congr fun event _ => ?_
  rw [List.filter_map, List.map_map, List.countP_eq_length_filter]
  exact List.map_const

/-- An engine over an empty store with some observers, of which nothing was asked yet. -/
def Office.new (settings : StoreSettings) (engine : EngineSettings) (observers : List Observer) :
    Office :=
  ⟨⟨.new settings, engine, observers, []⟩, []⟩

/-- Whatever is asked of an engine in any interleaving, while observers come and go, those who are
there were told of each order that came to its end, one after the other, and of nothing else. So an
observer has heard, in order and once each, the events of all that was concluded in its presence,
whoever breaks down over what. And with any observers, or none, the same can happen, with the same
answers and the same contents at each end, and leaves the same store. -/
theorem Office.Run.heard_in_order {settings : StoreSettings} {engine : EngineSettings}
    {observers : List Observer} {concluded : List Conclusion} {f : Office}
    (run : Office.Run (.new settings engine observers) concluded f) :
    (∃ news : List News, news.map News.conclusion = concluded ∧
      f.engine.notices = news.flatMap (fun x => x.events.flatMap fun event =>
        x.conclusion.observers.map fun observer => ⟨observer.name, event⟩) ∧
      ∀ name, f.engine.heard name = news.flatMap fun x => x.events.flatMap fun event =>
        .replicate (x.conclusion.observers.countP fun observer => observer.name = name) event) ∧
    ∀ others, ∃ notices, Office.Run (.new settings engine others)
      (concluded.map (.among others))
      ⟨{ f.engine with observers := others, notices }, f.clients⟩ := by
  have sound : (Office.new settings engine observers).Sound := by
    refine ⟨fun view => ?_, fun _ _ member => absurd member List.not_mem_nil⟩
    show ((Store.new settings).seen view).WellFormed
    rw [Store.seen_free rfl]
    exact Contents.wellFormed_empty
  obtain ⟨-, news, conclusions, notices⟩ := run.reports sound
  have all : f.engine.notices = news.flatMap News.notices := notices
  refine ⟨⟨news, conclusions, ?_, fun name => ?_⟩, fun others => run.retold []⟩
  · rw [all]
    exact List.flatMap_congr fun x _ => Observer.notify_eq _ _
  · rw [Engine.heard, all, List.filter_flatMap, List.map_flatMap]
    exact List.flatMap_congr fun x _ => Observer.heard_notify _ _ _

/-- A call that need not wait takes its step. -/
theorem Office.step_call {e : Engine} {order : Order} {c : Call Order.Answer}
    (before after : List Participant) (now : Nat) (ready : (c.step now e).isSome = true) :
    Step ⟨e, before ++ .caller order c :: after⟩
      (((c.step now e).get ready).2.conclusions order e ((c.step now e).get ready).1)
      ⟨((c.step now e).get ready).1,
        before ++ .caller order ((c.step now e).get ready).2 :: after⟩ :=
  .call (Option.some_get ready).symm

theorem Office.step_seeker {e : Engine} {a : Acquirer} (before after : List Participant) (now : Nat)
    (wall : UInt64) (ready : (a.step now wall e).isSome = true) :
    Step ⟨e, before ++ .seeker a :: after⟩
      (((a.step now wall e).get ready).2.conclusions wall e ((a.step now wall e).get ready).1)
      ⟨((a.step now wall e).get ready).1,
        before ++ .seeker ((a.step now wall e).get ready).2 :: after⟩ :=
  .acquire (Option.some_get ready).symm

/-- Two observers, of whom the first breaks down over everything, and a third who comes later. A
batch of two is submitted and one of the tasks taken. The third observer comes. The task is
submitted again, which is refused, and goes back into the queue. -/
theorem Office.Run.heard_in_order_breaking_down :
    let observers : List Observer := [⟨"first", fun _ => true⟩, ⟨"second", fun _ => false⟩]
    ∃ (concluded : List Conclusion) (f : Office) (news : List News),
      Office.Run (.new .inMemory .standard observers) concluded f ∧
      concluded.map (·.answer.isOk) = [true, true, false, true] ∧
      news.map News.conclusion = concluded ∧
      (∀ name, f.engine.heard name = news.flatMap fun x => x.events.flatMap fun event =>
        .replicate (x.conclusion.observers.countP fun observer => observer.name = name) event) ∧
      (f.engine.heard "second").map (fun event => (event.name, event.task.id)) =
        [("submit", .ofNat 1), ("submit", .ofNat 2), ("acquire", .ofNat 1), ("done", .ofNat 1)] ∧
      (f.engine.heard "third").map (fun event => (event.name, event.task.id)) =
        [("done", .ofNat 1)] := by
  intro observers
  let task (n : Nat) : Task := .new (.ofNat n) 0 "t" .null
  have start : Office.Run (.new .inMemory .standard observers) [] _ := .nil
  have first := start.snoc (@Step.order _ _ (.submitAll [task 1, task 2]) .standard 0)
  have queued := first.snoc (step_call [] [] 0 rfl)
  have second := queued.snoc (@Step.seek _ _ none)
  have enters := second.snoc (step_seeker [] _ 0 7 rfl)
  have takes := enters.snoc (step_seeker [] _ 0 7 (by decide +kernel))
  have comes := takes.snoc (@Step.observe _ _ ⟨"third", fun _ => false⟩ fun none =>
    absurd (congrArg List.length none) (by decide +kernel))
  have third := comes.snoc (@Step.order _ _ (.submitAll [task 1]) .standard 0)
  have refused := third.snoc (step_call [] _ 0 (by decide +kernel))
  have fourth := refused.snoc (@Step.order _ _ (.cancel (.ofNat 1) true) .standard 0)
  have waits := fourth.snoc (step_call [] _ 0 (by decide +kernel))
  have done := waits.snoc (step_call [] _ 0 (by decide +kernel))
  obtain ⟨⟨news, conclusions, -, hears⟩, -⟩ := Office.Run.heard_in_order done
  exact ⟨_, _, news, done, by decide +kernel, conclusions, hears, by decide +kernel,
    by decide +kernel⟩

end TaskQueue
