import TaskQueue.Log.Event
import TaskQueue.Text.Alphanumeric
import TaskQueue.Text.Blank

/-!
Which events a log tells of.

A filter is written as directives between commas. A directive is a level, or a target with or
without a level, and may name a span in brackets with a field in braces: `info`, `store=debug`,
`store[commit{id}]=trace`. A directive that makes no sense is passed over. Those that ask for a span
say nothing about events outside one; of the others the one with the longest target that an event's
target starts with decides.
-/

namespace TaskQueue

/-- The least important level that is told of; none if nothing is. -/
abbrev Threshold := Option LogLevel

namespace Threshold

/-- Whether events of a level are told of. -/
def allows (t : Threshold) (level : LogLevel) : Bool :=
  t.any (·.rank ≤ level.rank)

/-- The number of decimal digits, which may have a plus sign in front. -/
def number? (text : List Char) : Option Nat :=
  let digits := if text.head? = some '+' then text.drop 1 else text
  if digits.isEmpty || !digits.all Char.isDigit then none
  else some (digits.foldl (fun n c => 10 * n + (c.toNat - '0'.toNat)) 0)

/-- The threshold of a text: a name in capital or small letters, or a number from 0 for nothing to 5
for everything. -/
def ofText? (text : String) : Option Threshold :=
  match number? text.toList with
  | some n =>
    if n = 0 then some none else if n ≤ 5 then some LogLevel.all[5 - n]? else none
  | none =>
    let name := text.map Char.toUpper
    if name = "OFF" then some none
    else (LogLevel.all.find? (·.label = name)).map some

end Threshold

/-- A directive of a filter. Of a field it says whether a value is asked for, too. -/
structure Directive where
  target : Option String
  span : Option String
  field : Option (String × Bool)
  level : Threshold

namespace Directive

/-- Some characters of a text, from a position up to another one. -/
def cut (whole : List Char) (start stop : Nat) : String :=
  String.ofList ((whole.drop start).take (stop - start))

/-- Whether a directive may begin with a character. -/
def opens (c : Char) : Bool :=
  Text.isAlphanumeric c || c ∈ ['-', ':', '_']

/-- The threshold behind an equals sign; everything if there is nothing. -/
def levelFrom? (whole : List Char) (start : Nat) : Option Threshold :=
  match whole.drop start with
  | [] => some (some .trace)
  | text => Threshold.ofText? (String.ofList text)

/-- What stands behind a bracket: nothing, or a level. -/
def behindBracket? (whole : List Char) (position : Nat) : List Char → Option Threshold
  | [] => some (some .trace)
  | '=' :: _ => levelFrom? whole (position + 1)
  | _ => none

/-- A field, and whether a value is asked for. -/
def fieldOf (text : String) : String × Bool :=
  match text.splitOn "=" with
  | name :: rest => (name, !rest.isEmpty)
  | [] => (text, false)

/-- A directive with a target, from the position behind an opening bracket. -/
def inBrackets? (whole : List Char) (target : Option String) (start : Nat) (chars : List Char) :
    Option Directive :=
  let name := chars.takeWhile fun c => c ≠ ']' && c ≠ '{'
  let stop := start + name.length
  match chars.drop name.length with
  | ']' :: rest =>
    (behindBracket? whole (stop + 1) rest).map fun level =>
      ⟨target, some (cut whole start stop), none, level⟩
  | '{' :: rest =>
    let field := rest.takeWhile (· ≠ '}')
    let text := cut whole (stop + 1) (stop + 1 + field.length)
    match rest.drop field.length with
    | '}' :: ']' :: rest =>
      if text.isEmpty then none
      else
        (behindBracket? whole (stop + field.length + 3) rest).map fun level =>
          ⟨target, if name.isEmpty then none else some (cut whole start stop), some (fieldOf text),
            level⟩
    | _ => none
  | _ => none

/-- The directive of a text. White space around it does not count for its form, but the parts are
cut from the text as it stands, at the places where they would be without the white space. -/
def ofText? (text : String) : Option Directive :=
  let whole := text.toList
  let chars := Text.trim whole
  match chars with
  | [] => none
  | '[' :: rest => inBrackets? whole none 1 rest
  | first :: _ =>
    if !opens first then none
    else
      let name := chars.takeWhile fun c => c ≠ '=' && c ≠ '['
      let target := cut whole 0 name.length
      match chars.drop name.length with
      | [] =>
        match Threshold.ofText? text with
        | some level => some ⟨none, none, none, level⟩
        | none => some ⟨some text, none, none, some .trace⟩
      | '=' :: _ =>
        (levelFrom? whole (name.length + 1)).map fun level => ⟨some target, none, none, level⟩
      | _ :: rest => inBrackets? whole (some target) (name.length + 1) rest

/-- Whether a directive says something about what happens in spans. -/
def isDynamic (d : Directive) : Bool :=
  d.span.isSome || d.field.isSome

end Directive

/-- What a filter says about events: those whose target starts with a text and that have some fields
are told of from a level on. -/
structure FilterRule where
  target : Option String
  fields : List String
  level : Threshold

namespace FilterRule

/-- What a directive says about events outside spans. -/
def ofDirective? (d : Directive) : Option FilterRule :=
  if d.span.isSome || d.field.any (·.2) then none
  else some ⟨d.target, (d.field.map (·.1)).toList, d.level⟩

/-- Whether a rule is about an event. -/
def isAbout (r : FilterRule) (e : LogEvent) : Bool :=
  r.target.all (e.target.startsWith ·) && r.fields.all (· ∈ e.fieldNames)

/-- The order of rules: a longer target makes a rule more special, and so do more fields. -/
def compare (a b : FilterRule) : Ordering :=
  let size (r : FilterRule) := r.target.elim 0 fun t => t.utf8ByteSize + 1
  (Ord.compare (size a) (size b)).then <|
    (Ord.compare a.fields.length b.fields.length).then <|
      (Ord.compare (a.target.getD "") (b.target.getD "")).then <|
        if a.fields < b.fields then .lt else if b.fields < a.fields then .gt else .eq

/-- The more special one of two rules; the second one if they are about the same events. -/
def better (a b : FilterRule) : FilterRule :=
  if a.compare b = .gt then a else b

end FilterRule

/-- A filter. -/
structure LogFilter where
  rules : List FilterRule

namespace LogFilter

/-- The filter of some directives. Without any the level of the settings counts. -/
def ofDirectives (level : LogLevel) (ds : List Directive) : LogFilter :=
  if ds.isEmpty then ⟨[⟨none, [], some level⟩]⟩
  else
    let (dynamic, plain) := ds.partition Directive.isDynamic
    ⟨(plain ++ dynamic).filterMap FilterRule.ofDirective?⟩

/-- The filter of a text. -/
def ofText (level : LogLevel) (text : String) : LogFilter :=
  ofDirectives level (((text.splitOn ",").filter (!·.isEmpty)).filterMap Directive.ofText?)

/-- The rule that decides about an event. -/
def ruleFor? (f : LogFilter) (e : LogEvent) : Option FilterRule :=
  match f.rules.filter (·.isAbout e) with
  | [] => none
  | r :: rest => some (rest.foldl FilterRule.better r)

/-- Whether an event is told of. -/
def enables (f : LogFilter) (e : LogEvent) : Bool :=
  (f.ruleFor? e).any (·.level.allows e.level)

end LogFilter

end TaskQueue
