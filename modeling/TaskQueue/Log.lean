import TaskQueue.Json.Meaning
import TaskQueue.Log.Filter

/-!
The log of a program: which events it tells of, and the line that it writes for each. A line is
text, with colours or without, or a JSON object. A program has at most one log.
-/

namespace TaskQueue

/-- A log. -/
structure Log where
  settings : LogSettings
  filter : LogFilter

namespace Log

/-- The log of some settings. What the user asks for goes before the level of the settings. -/
def new (settings : LogSettings) (asked : Option String) : Log :=
  ⟨settings, .ofText settings.level (asked.getD "")⟩

/-- Whether a log is taken by a program, and the log of the program afterwards: the first one stays.
-/
def install (l : Log) : Option Log → Bool × Option Log
  | none => (true, some l)
  | some first => (false, some first)

/-! ## Text -/

/-- A text between escape sequences for a terminal. -/
def styled (codes text : String) : String :=
  "\x1b[" ++ codes ++ "m" ++ text ++ "\x1b[0m"

/-- A text in a style if there are colours. -/
def style (colored : Bool) (codes text : String) : String :=
  if colored then styled codes text else text

/-- The colour of a level. -/
def color : LogLevel → String
  | .error => "31"
  | .warn => "33"
  | .info => "32"
  | .debug => "34"
  | .trace => "35"

/-- The name of a level in five columns. -/
def column (level : LogLevel) : String :=
  String.ofList (List.replicate (5 - level.label.length) ' ') ++ level.label

/-- A character between quotes. -/
def escape (c : Char) : List Char :=
  match c with
  | '"' => ['\\', '"']
  | '\\' => ['\\', '\\']
  | '\n' => ['\\', 'n']
  | '\r' => ['\\', 'r']
  | '\t' => ['\\', 't']
  | '\x00' => ['\\', '0']
  | c => [c]

/-- A text between quotes. -/
def quote (s : String) : String :=
  "\"" ++ String.ofList (s.toList.flatMap escape) ++ "\""

/-- A truth value. -/
def flagText (b : Bool) : String :=
  if b then "true" else "false"

/-- The text of a value. -/
def valueText : LogValue → String
  | .number n => toString n
  | .flag b => flagText b
  | .text s => quote s
  | .shown s => s

/-- A field as text. -/
def fieldText (colored : Bool) (field : String × LogValue) : String :=
  style colored "3" field.1 ++ style colored "2" "=" ++ valueText field.2

/-- The line of an event as text. -/
def textLine (s : LogSettings) (time : String) (e : LogEvent) : String :=
  " ".intercalate <|
    (if s.timestamps then [style s.colored "2" time] else []) ++
    [style s.colored (color e.level) (column e.level)] ++
    (if s.targets then [style s.colored "2" e.target ++ style s.colored "2" ":"] else []) ++
    [e.message] ++ e.fields.map (fieldText s.colored)

/-! ## JSON -/

/-- A string as a document. -/
def stringDoc (s : String) : Json.Doc :=
  .string (.ofString s)

/-- The document of a value. -/
def valueDoc : LogValue → Json.Doc
  | .number n => .number (.ofInt n)
  | .flag b => .bool b
  | .text s => stringDoc s
  | .shown s => stringDoc s

/-- The members of an object. -/
def objectDoc (members : List (String × Json.Doc)) : Json.Doc :=
  .object (members.map fun (key, doc) => (.ofString key, doc))

/-- The line of an event as JSON. -/
def jsonDoc (s : LogSettings) (time : String) (e : LogEvent) : Json.Doc :=
  objectDoc <|
    (if s.timestamps then [("timestamp", stringDoc time)] else []) ++
    [("level", stringDoc e.level.label),
      ("fields", objectDoc (("message", stringDoc e.message) ::
        e.fields.map fun (key, value) => (key, valueDoc value)))] ++
    (if s.targets then [("target", stringDoc e.target)] else [])

/-- The line of an event as JSON text. -/
def jsonLine (s : LogSettings) (time : String) (e : LogEvent) : String :=
  (Utf8.decode? (jsonDoc s time e).write).getD ""

/-! ## Lines -/

/-- The line of an event, if the log tells of it. -/
def line? (l : Log) (time : String) (e : LogEvent) : Option String :=
  if l.filter.enables e then
    some (if l.settings.json then jsonLine l.settings time e else textLine l.settings time e)
  else none

end Log

end TaskQueue
