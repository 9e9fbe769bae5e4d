import TaskQueue.Script.Cursor
import TaskQueue.Store.Change

/-!
Calls on a store, alone or as the steps of a change.

The steps of a change run in one section. A change within a change joins the section of the outer
one. A step that fails is noted; it ends the change only if the change is strict.
-/

namespace TaskQueue

/-- A call on a store. -/
inductive StoreCall
  | ask (q : Request)
  /-- A new record of a task. It may be laid over the stored one. -/
  | record (state : TaskState) (stored : Option TaskId) (overlay : Option Task → Task)
  | list (listing : Listing)
  | listIds (listing : Listing)
  /-- An estimate in units of some milliseconds. -/
  | estimate (kind : String) (unit : Nat)

namespace StoreCall

/-- The answer of a call. -/
def run (settings : CursorSettings) : StoreCall → Program Answer
  | .ask q => do return .ofExcept q.answer (← Program.request q)
  | .record state none overlay => do
    return .ofExcept .ofUnit (← Program.request (.setState (overlay none) state))
  | .record state (some id) overlay => do
    let stored : Except Failure (Option Task) ← Program.request (.get id)
    match stored with
    | .error failure => return .failure failure
    | .ok stored => return .ofExcept .ofUnit (← Program.request (.setState (overlay stored) state))
  | .list listing => do
    return .ofExcept .tasks
      (← Cursor.collect listing.source CursorCall.manyRows (.new settings))
  | .listIds listing => do
    return .ofExcept .ids
      (← Cursor.collect listing.idSource CursorCall.manyRows (.new settings))
  | .estimate kind unit => do
    let ms : Except Failure Nat ← Program.request (.estimate kind)
    return .ofExcept (fun ms => .nat (ms / unit)) ms

/-- The answer that shows all of a store. -/
def dump (settings : CursorSettings) : Program Answer := do
  let pending ← run settings (.list (.pending none))
  let failed ← run settings (.list (.inState .error none))
  let tags ← run settings (.ask .tags)
  let rateLimits ← run settings (.ask .rateLimits)
  let retryLimits ← run settings (.ask .retryLimits)
  return .contents pending failed tags rateLimits retryLimits

end StoreCall

/-- A step of a change. -/
inductive ChangeStep
  | call (call : StoreCall)
  /-- Whether the step runs in a section, which it does. -/
  | isIsolated
  /-- A change within the change; `fail` is the text with which it fails in the end. -/
  | change (strict : Bool) (fail : Option String) (steps : List ChangeStep)

/-- A change: its steps, whether the first failure ends it, and the text with which it fails in the
end. -/
structure ChangeScript where
  strict : Bool
  fail : Option String
  steps : List ChangeStep

/-- What became of a change: the number of its steps or its failure, and the answers. -/
structure ChangeResult where
  outcome : Except Failure Nat
  results : List Answer

namespace ChangeResult

/-- Whether a change succeeded. -/
def isGood (r : ChangeResult) : Bool :=
  r.outcome.isOk

/-- What became of a change, as an answer. -/
def answer (r : ChangeResult) : Answer :=
  .change (.ofExcept .nat r.outcome) r.results

end ChangeResult

/-- The failure with which a change ends when its steps are over. -/
def endOfChange (fail : Option String) (count : Nat) : Except Failure Nat :=
  match fail with
  | some text => .error (.store text)
  | none => .ok count

/-- What becomes of a change of some steps: their answers, and the failure that ended it, if one
did. -/
def ChangeResult.ofSteps (fail : Option String) (count : Nat) (results : List Answer)
    (failure : Option Failure) : ChangeResult :=
  match failure with
  | some failure => ⟨.error failure, results⟩
  | none => ⟨endOfChange fail count, results⟩

/-- The failure of a change, if it failed. -/
def ChangeResult.failure? (r : ChangeResult) : Option Failure :=
  match r.outcome with
  | .ok _ => none
  | .error failure => some failure

mutual

/-- The answer of a step, and its failure if it failed. -/
def ChangeStep.run (settings : CursorSettings) : ChangeStep → Change (Answer × Option Failure)
  | .call c => do
    let answer ← Change.ofProgram (c.run settings)
    return (answer, answer.failure?)
  | .isIsolated => return (.flag true, none)
  | .change strict fail steps =>
    let inner : Change ChangeResult := do
      let (results, failure) ← ChangeStep.runAll settings strict steps
      return .ofSteps fail steps.length results failure
    .nested inner fun result => return (result.answer, result.failure?)

/-- The answers of the steps of a change, and the failure that ended it. -/
def ChangeStep.runAll (settings : CursorSettings) (strict : Bool) :
    List ChangeStep → Change (List Answer × Option Failure)
  | [] => return ([], none)
  | step :: rest => do
    let (answer, failure) ← step.run settings
    if strict && failure.isSome then return ([answer], failure)
    else
      let (answers, failure) ← ChangeStep.runAll settings strict rest
      return (answer :: answers, failure)

end

/-- A change that ends well or fails, with all its answers. -/
def ChangeScript.run (settings : CursorSettings) (script : ChangeScript) :
    Change (Except ChangeResult ChangeResult) := do
  let (results, failure) ← ChangeStep.runAll settings script.strict script.steps
  let result := ChangeResult.ofSteps script.fail script.steps.length results failure
  return if result.isGood then .ok result else .error result

/-- What became of a change that ended well or failed. -/
def ChangeResult.ofEnd : Except ChangeResult ChangeResult → ChangeResult
  | .ok result => result
  | .error result => result

/-- What becomes of a change that cannot be made. -/
def ChangeResult.refused (failure : Failure) : ChangeResult :=
  ⟨.error failure, []⟩

end TaskQueue
