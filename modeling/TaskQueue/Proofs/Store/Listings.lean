import TaskQueue.Proofs.Cursor
import TaskQueue.Proofs.Store.Serial
import TaskQueue.Proofs.Store.Sorted

/-!
# What the cursors of a store give

A cursor pages through an index that is kept up to date by every write. What it gives in the end is
what sorting the stored tasks of a state by dispatch order would give.

Results:
1. `Run.reached`: whatever happens at a store, every view shows contents that requests lead to.
2. `lists_of`: a cursor over a listing gives all of its rows, whatever the size of its pages.
3. `Run.listings_sorted`: the rows of the listings, and the counts that agree with them.
-/

namespace TaskQueue

variable {s t : Store} {h : Store.History} {x : Store.Happening}

namespace Store

/-! ## 1. Contents in every view -/

/-- Whether a store offers the call that happens. -/
def Happening.IsOffered : Happening → Prop
  | .inside _ q _ => q.IsOffered
  | .outside q _ => q.IsOffered
  | _ => True

/-- What is committed, and what the open section has written, comes from requests. -/
structure Reached (s : Store) : Prop where
  committed : s.committed.Reachable
  copy : ∀ {id copy}, s.opened = some ⟨id, some copy⟩ → copy.Reachable

theorem reached_new (settings : StoreSettings) : (Store.new settings).Reached :=
  ⟨.empty, nofun⟩

theorem Reached.seen (reached : s.Reached) (view : View) : (s.seen view).Reachable := by
  cases view with
  | none => exact reached.committed
  | some id =>
    by_cases opened : s.openId = some id
    · obtain ⟨copy, own⟩ := openId_eq_some.mp opened
      have seen : s.seen (some id) = copy.getD s.committed := by simp [Store.seen, copyOf, own]
      rw [seen]
      cases copy with
      | none => exact reached.committed
      | some written => exact reached.copy own
    · rw [seen_of_not_open opened]
      exact reached.committed

theorem reached_of_seen (all : ∀ view, (s.seen view).Reachable) : s.Reached := by
  refine ⟨all none, fun {id copy} own => ?_⟩
  have shown : s.seen (some id) = copy := by simp [Store.seen, copyOf, own]
  exact shown ▸ all (some id)

/-- What holds in every view, and after every request that a store offers, goes on to hold in every
view. -/
theorem Step.keeps {holds : Contents → Prop} (step : Step s x t) (offered : x.IsOffered)
    (answers : ∀ c q, holds c → q.IsOffered → holds (c.answer q).2)
    (all : ∀ view, holds (s.seen view)) : ∀ view, holds (t.seen view) := by
  cases step with
  | begin result =>
    unfold Store.begin at result
    split at result
    · next free =>
      cases result
      rintro (_ | id)
      · exact all none
      · have shown : s.opening.2.seen (some id) = s.committed := by simp [Store.seen, copyOf, opening]
        show holds (s.opening.2.seen (some id))
        rw [shown]
        exact all none
    · cases result
      exact all
  | @inside _ id q reply opened result =>
    obtain ⟨copy, request, after⟩ := request_inside opened q
    rw [request] at result
    cases result
    rintro (_ | other)
    · exact all none
    · by_cases own : id = other
      · subst own
        rw [seen_opened, after]
        exact answers _ q (all (some id)) offered
      · rw [seen_of_not_open (by simpa [openId] using own)]
        exact all none
  | @commit id opened =>
    intro view
    rw [commit_eq opened, seen_free rfl]
    exact all (some id)
  | rollback | drop =>
    intro view
    rw [Store.rollback, seen_free rfl]
    exact all none
  | @outside _ q _ result =>
    cases write : q.isWrite with
    | false =>
      rw [request_read write none] at result
      cases result
      exact all
    | true =>
      cases free : s.free with
      | false =>
        rw [request_refused write free] at result
        cases result
        exact all
      | true =>
        rw [request_outside fun _ => free] at result
        cases result
        have closed : ({ s with committed := (s.committed.answer q).2 } : Store).free = true := free
        intro view
        rw [seen_free closed]
        exact answers _ q (all none) offered
  | page paged result =>
    rw [request_read (Request.not_isWrite paged)] at result
    cases result
    exact all

theorem Step.reached (step : Step s x t) (reached : s.Reached) (offered : x.IsOffered) :
    t.Reached :=
  reached_of_seen (step.keeps offered (fun _ _ => .answer) reached.seen)

theorem Run.reached {settings : StoreSettings} (run : Run (.new settings) h s)
    (offered : ∀ x ∈ h, x.IsOffered) : s.Reached := by
  induction run with
  | nil => exact reached_new settings
  | snoc _ step ih =>
    refine step.reached (ih fun x member => offered x (List.mem_append_left _ member)) ?_
    exact offered _ (by simp)

/-! ## 2. Cursors -/

/-- A cursor over a listing gives some rows, each of them once, or their identifiers, and says how
many there are. -/
structure Lists (s : Store) (view : View) (settings : CursorSettings) (listing : Listing)
    (rows : List Task) : Prop where
  once : rows.Nodup
  tasks : ∀ bound ≥ rows.length,
    s.run view (Cursor.collect listing.source bound (.new settings)) = (.ok rows, s)
  ids : ∀ bound ≥ rows.length,
    s.run view (Cursor.collect listing.idSource bound (.new settings)) =
      (.ok (rows.map Task.id), s)
  size : ∃ measured,
    s.run view (Cursor.measure listing.source (.new settings)) =
      ((.ok rows.length, measured), s) ∧
    ∀ bound ≥ rows.length, s.run view (Cursor.collect listing.source bound measured) = (.ok rows, s)

theorem run_collect {α : Type} {source : Source Program α} {rows : List α} {cursor : Cursor α}
    {view : View} (reads : source.Reads) (shows : source.Shows (s.seen view) rows)
    (whole : cursor.range = none) (all : cursor.remaining rows = rows) {bound : Nat}
    (enough : bound ≥ rows.length) :
    s.run view (cursor.collect source bound) = (.ok rows, s) := by
  rw [run_reads (Cursor.collect_reads reads bound cursor), Cursor.collect_exec shows bound whole,
    all, List.take_of_length_le enough]

theorem lists_of {view : View} (h : (s.seen view).WellFormed) {settings : CursorSettings}
    (page : settings.pageSize ≠ 0) (listing : Listing) :
    s.Lists view settings listing ((s.seen view).list listing) := by
  have shows := listing.source_shows (s.seen view)
  have all := @Cursor.remaining_new _ ((s.seen view).list listing) _ page
  let measured : Cursor Task :=
    { Cursor.new settings with size := some ((s.seen view).list listing).length }
  refine ⟨List.Nodup.of_map Task.id (Contents.list_ids_nodup h listing), ?_, ?_, measured, ?_, ?_⟩
  · intro bound enough
    exact run_collect listing.source_reads shows rfl all enough
  · intro bound enough
    refine run_collect listing.idSource_reads (listing.idSource_shows _) rfl
      (Cursor.remaining_new page) ?_
    rwa [List.length_map]
  · rw [run_reads (Cursor.measure_reads listing.source_reads _), Cursor.measure_new shows]
  · intro bound enough
    have same : measured.remaining ((s.seen view).list listing) = (s.seen view).list listing := all
    exact run_collect listing.source_reads shows rfl same enough

/-! ## 3. The listings of a store -/

theorem run_number (s : Store) (view : View) (state : TaskState) (scope : Scope) :
    s.run view (Program.request (.number state scope)) =
      (.ok ((s.seen view).sorted fun task => task.state = state && scope.includes task).length,
        s) := by
  have reads : (Program.request (.number state scope)).Reads := ⟨rfl, fun _ => trivial⟩
  rw [Contents.length_sorted]
  exact run_reads reads s view

/-- Whatever has happened at a store, from every view and for pages of any size but zero: the
cursors over the queued, the running and the failed tasks, of one kind or of all, give the stored
tasks in that state sorted by dispatch order; the one over the pending tasks, with one tag or any,
gives the running ones and then the queued ones, sorted each; and the counts of queued and running
tasks are the lengths of these. -/
theorem Run.listings_sorted {settings : StoreSettings} (run : Run (.new settings) h s)
    (offered : ∀ x ∈ h, x.IsOffered) (view : View) {cursor : CursorSettings}
    (page : cursor.pageSize ≠ 0) :
    let sorted (state : TaskState) (belongs : Task → Bool) :=
      (s.seen view).sorted fun task => task.state = state && belongs task
    (∀ state ∈ [TaskState.queued, .running, .error], ∀ kind : Option String,
      s.Lists view cursor (.inState state kind) (sorted state fun task => kind.all (task.kind = ·))) ∧
    (∀ tag : Option String, s.Lists view cursor (.pending tag)
      (sorted .running (fun task => tag.all task.hasTag) ++
        sorted .queued fun task => tag.all task.hasTag)) ∧
    ∀ state, s.run view (Program.request (.number state .all)) =
        (.ok (sorted state fun _ => true).length, s) ∧
      ∀ kind, s.run view (Program.request (.number state (.kind kind))) =
        (.ok (sorted state fun task => task.kind = kind).length, s) := by
  have reached := (run.reached offered).seen view
  have formed := reached.wellFormed
  intro sorted
  refine ⟨fun state settled kind => ?_, fun tag => ?_, fun state => ⟨?_, fun kind => ?_⟩⟩
  · have other : state ≠ .pending := by
      rintro rfl
      simp at settled
    have lists := lists_of formed page (.inState state kind)
    rwa [Contents.list_inState formed reached.numbered other kind] at lists
  · have lists := lists_of formed page (.pending tag)
    rwa [Contents.list_pending formed reached.numbered tag] at lists
  · exact run_number s view state .all
  · exact run_number s view state (.kind kind)

theorem offered_snoc (offered : ∀ x ∈ h, x.IsOffered) (offers : x.IsOffered) :
    ∀ y ∈ h ++ [x], y.IsOffered := by
  intro y member
  rcases List.mem_append.mp member with earlier | last
  · exact offered y earlier
  · rw [List.mem_singleton.mp last]
    exact offers

/-- A run goes on with a call outside of sections. -/
theorem Run.request {start : Store} (run : Run start h s) (offered : ∀ x ∈ h, x.IsOffered)
    (q : Request) (offers : q.IsOffered) :
    ∃ more, Run start more (s.request none q).2 ∧ ∀ x ∈ more, x.IsOffered :=
  ⟨h ++ [.outside q (s.request none q).1], run.snoc (.outside rfl),
    offered_snoc (x := .outside q (s.request none q).1) offered offers⟩

/-- Of three tasks one runs, and one of the others has a higher priority. Pages hold one row. -/
theorem Run.listings_sorted_three :
    let id (n : Nat) : TaskId := .ofNat n
    let cursor : CursorSettings := { CursorSettings.standard with pageSize := 1 }
    ∃ h s rows, Run (.new .inMemory) h s ∧ (∀ x ∈ h, x.IsOffered) ∧ cursor.pageSize ≠ 0 ∧
      s.Lists none cursor (.pending none) rows ∧ rows.map Task.id = [id 2, id 3, id 1] := by
  intro id cursor
  let task (n : Nat) (priority : Int32) : Task := .withPriority priority (.new (id n) 0 "t" .null)
  let queue : Request := .queue [task 1 0, task 2 0, task 3 5]
  let start : Request := .setState (task 2 0) .running
  have page : cursor.pageSize ≠ 0 := by decide
  obtain ⟨_, first, all⟩ := Run.nil.request (fun _ => nofun) queue trivial
  obtain ⟨h, run, offered⟩ := first.request all start nofun
  have ids : (((((Store.new .inMemory).request none queue).2.request none start).2.seen none).list
      (.pending none)).map Task.id = [id 2, id 3, id 1] := by
    decide +kernel
  generalize (((Store.new .inMemory).request none queue).2.request none start).2 = s at run ids
  have reached := (run.reached offered).seen none
  have lists := (run.listings_sorted offered none page).2.1 none
  rw [Contents.list_pending reached.wellFormed reached.numbered none] at ids
  exact ⟨h, s, _, run, offered, page, lists, ids⟩

end Store

end TaskQueue
