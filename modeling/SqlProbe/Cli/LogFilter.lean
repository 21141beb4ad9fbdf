import SqlProbe.Text.Ascii
import SqlProbe.Text.Blank
import SqlProbe.Text.Cut
import SqlProbe.Text.Hidden
import SqlProbe.Text.Numeral

/-!
# Log filters

A filter is a list of directives with commas between them. A directive names a level, or a target,
or a span in brackets perhaps with fields in braces, and perhaps a level behind an equals sign. Only
whether a filter can be read matters here.
-/

namespace SqlProbe.Cli.LogFilter

/-- Why a filter cannot be read. -/
inductive Fault where
  | directive
  | level
  deriving DecidableEq, Repr

/-- What is wrong, and what is behind that. -/
def Fault.causes : Fault → List String
  | directive => ["invalid filter directive"]
  | level =>
    let text := "error parsing level filter: expected one of \"off\", \"error\", \"warn\", " ++
      "\"info\", \"debug\", \"trace\", or a number 0-5"
    [text, text]

/-- The names of the levels. -/
def levels : List String := ["off", "error", "warn", "info", "debug", "trace"]

/-- The text is a level, by name or by number, or is left out. -/
def isLevel (cs : List Char) : Bool :=
  cs = [] || (Text.natural? 5 cs).isSome || levels.contains (String.ofList (Text.lower cs))

/-- A character that a target may begin with; of those beyond ASCII all that can be seen. -/
def beginsTarget (c : Char) : Bool :=
  c.isAlphanum || c = '-' || c = ':' || c = '_' ||
    (0x80 ≤ c.toNat && !Text.isHidden c && !Text.isBlank c)

/-- Where in a directive a character stands. -/
inductive Place where
  | start
  | target
  | span
  /-- In a field, of which nothing has been read or something. -/
  | field (empty : Bool)
  | fields
  | closed

/-- Reads a directive; the level behind the equals sign, if there is one. -/
def scan : Place → List Char → Except Fault (Option (List Char))
  | .start, '[' :: cs => scan .span cs
  | .start, c :: cs => if beginsTarget c then scan .target cs else .error .directive
  | .target, [] => .ok none
  | .target, '=' :: cs => .ok (some cs)
  | .target, '[' :: cs => scan .span cs
  | .target, _ :: cs => scan .target cs
  | .span, ']' :: cs => scan .closed cs
  | .span, '\x7b' :: cs => scan (.field true) cs
  | .span, _ :: cs => scan .span cs
  | .field empty, '\x7d' :: cs => if empty then .error .directive else scan .fields cs
  | .field _, _ :: cs => scan (.field false) cs
  | .fields, ']' :: cs => scan .closed cs
  | .closed, [] => .ok none
  | .closed, '=' :: cs => .ok (some cs)
  | _, _ => .error .directive

/-- Checks a directive. Blanks at its ends do no harm where there is no level. -/
def checkDirective (cs : List Char) : Except Fault Unit := do
  match ← scan .start (Text.trim cs) with
  | none => pure ()
  | some level =>
    let after := cs.drop (Text.trimEnd cs).length
    if (cs.head?.any Text.isBlank) || !isLevel (level ++ after) then throw .level

/-- Checks a filter. -/
def check (filter : String) : Except Fault Unit :=
  ((Text.splitAtChar ',' filter.toList).filter (· ≠ [])).forM checkDirective

/-- Chooses between the filter of the environment, if it can be read, and the one that is given. -/
def choose (environment : Option String) (filter : String) : Except Fault Unit :=
  match environment.map check with
  | some (.ok ()) => .ok ()
  | _ => check filter

end SqlProbe.Cli.LogFilter
