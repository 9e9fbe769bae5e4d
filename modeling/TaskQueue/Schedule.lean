/-!
Processes that share a state and take turns, under a clock that stands still while one of them can
move.

A process moves in small steps. When it cannot, it waits for the state to change or for a point in
time. The processes stand in a row: the first one that can move does so until it has to wait, and
goes to the back of the row, behind all that it started. So of two that wait for the same thing the
one that has waited longer gets it.
-/

namespace TaskQueue

/-- A step of a process: the state after it, what the process has become, unless it is over, and the
processes that it started. -/
structure Turn (σ π : Type) where
  state : σ
  self : Option π
  started : List π

namespace Turn

variable {σ π τ ρ : Type}

/-- A step after which the process goes on. -/
def next (state : σ) (self : π) : Turn σ π :=
  ⟨state, some self, []⟩

/-- The last step of a process. -/
def last (state : σ) : Turn σ π :=
  ⟨state, none, []⟩

/-- A step seen from a larger state and a larger kind of process. -/
def map (f : σ → τ) (g : π → ρ) (turn : Turn σ π) : Turn τ ρ :=
  ⟨f turn.state, turn.self.map g, turn.started.map g⟩

end Turn

/-- How processes `π` over a state `σ` move. `timer` is the point in time that a process waits for.
-/
structure System (σ π : Type) where
  step : Nat → σ → π → Option (Turn σ π)
  timer : σ → π → Option Nat

/-- A point in time, a state, and the processes in their row. -/
structure World (σ π : Type) where
  now : Nat
  state : σ
  processes : List π

namespace World

variable {σ π : Type}

/-- A process after a step, moving on until it has to wait or is over, for at most `bound` steps. -/
def run (system : System σ π) (now : Nat) : Nat → Turn σ π → Turn σ π
  | 0, turn => turn
  | bound + 1, turn =>
    match turn.self.bind (system.step now turn.state) with
    | some more => run system now bound { more with started := turn.started ++ more.started }
    | none => turn

/-- What the first process in a row that can move does, and the row after it. -/
def move (system : System σ π) (bound now : Nat) (state : σ) : List π → Option (σ × List π)
  | [] => none
  | p :: rest =>
    match system.step now state p with
    | some turn =>
      let turn := run system now bound turn
      some (turn.state, rest ++ turn.started ++ turn.self.toList)
    | none => (move system bound now state rest).map fun (state, row) => (state, p :: row)

/-- The world after one move, if one can be made. -/
def advance (system : System σ π) (bound : Nat) (w : World σ π) : Option (World σ π) :=
  (move system bound w.now w.state w.processes).map fun (state, processes) =>
    { w with state, processes }

/-- The world at rest, after at most `bound` moves. -/
def settle (system : System σ π) (steps : Nat) : Nat → World σ π → World σ π
  | 0, w => w
  | bound + 1, w =>
    match w.advance system steps with
    | some w => settle system steps bound w
    | none => w

/-- The world at rest at this point in time; no process makes more than `bound` moves. -/
def rest (system : System σ π) (bound : Nat) (w : World σ π) : World σ π :=
  w.settle system bound bound

/-- The next point in time that a process waits for. -/
def nextTimer (system : System σ π) (w : World σ π) : Option Nat :=
  ((w.processes.filterMap (system.timer w.state)).filter (w.now < ·)).min?

/-- The world at rest at a later point in time, after at most `bound` stops on the way. -/
def sleepUntil (system : System σ π) (steps : Nat) : Nat → Nat → World σ π → World σ π
  | 0, target, w => { w with now := max w.now target }
  | bound + 1, target, w =>
    let w := w.rest system steps
    match w.nextTimer system with
    | some t =>
      if t ≤ target then sleepUntil system steps bound target { w with now := t }
      else rest system steps { w with now := max w.now target }
    | none => rest system steps { w with now := max w.now target }

/-- The world at rest when something has come about, or when nothing waits for a point in time up to
`target` any more, after at most `bound` stops; time goes on only from one timer to the next. -/
def runUntil (system : System σ π) (steps : Nat) (target : Option Nat) (done : World σ π → Bool) :
    Nat → World σ π → World σ π
  | 0, w => w
  | bound + 1, w =>
    let w := w.rest system steps
    if done w then w
    else
      match w.nextTimer system with
      | some t =>
        if target.all (t ≤ ·) then runUntil system steps target done bound { w with now := t }
        else w
      | none => w

end World

end TaskQueue
