import SqlProbe.Sql.Template
import SqlProbe.Text.Cut
import SqlProbe.Value

/-!
# SQL literals

Values as literals of SQL text. Text goes between single quotes with a backslash before backslashes,
quotes and NUL; a decimal goes unquoted only when it is a numeral, and a binary number only when it
is finite.
-/

namespace SqlProbe.Sql

/-- A text with something else in the place of every occurrence of a character. -/
def replaced (c : Char) (substitute cs : List Char) : List Char :=
  cs.flatMap fun d => if d = c then substitute else [d]

/-- A text inside a quoted literal. Backslashes go first, since the other passes put some in. -/
def escape (cs : List Char) : List Char :=
  replaced '\x00' ['\\', '0'] (replaced '\'' ['\\', '\''] (replaced '\\' ['\\', '\\'] cs))

/-- What the passes make of one character. -/
def escapeChar (c : Char) : List Char :=
  if c = '\\' then ['\\', '\\']
  else if c = '\'' then ['\\', '\'']
  else if c = '\x00' then ['\\', '0']
  else [c]

/-- A later pass leaves alone what an earlier one has put in. -/
theorem escape_cons (c : Char) (cs : List Char) : escape (c :: cs) = escapeChar c ++ escape cs := by
  have passes (cs : List Char) : escape cs = cs.flatMap escapeChar := by
    simp only [escape, replaced, List.flatMap_assoc]
    refine congrArg (List.flatMap · cs) (funext fun c => ?_)
    by_cases backslash : c = '\\'
    · subst backslash
      rfl
    · by_cases mark : c = '\''
      · subst mark
        rfl
      · simp [escapeChar, backslash, mark]
  rw [passes, passes, List.flatMap_cons]

/-- The quoted literal of a text. -/
def quote (cs : List Char) : List Char := '\'' :: (escape cs ++ ['\''])

/-- The text without a leading sign. -/
def dropSign : List Char → List Char
  | '+' :: cs => cs
  | '-' :: cs => cs
  | cs => cs

/-- The text before the first letter of an exponent, and what stands behind the letter and a sign. -/
def cutExponent (cs : List Char) : List Char × Option (List Char) :=
  match cs.span fun c => c != 'e' && c != 'E' with
  | (mantissa, []) => (mantissa, none)
  | (mantissa, _ :: tail) => (mantissa, some (dropSign tail))

/-- The text is made of digits, at least one, and of at most one point. -/
def isMantissa (cs : List Char) : Bool :=
  let (whole, fraction) := (Text.cutAt? '.' cs).getD (cs, [])
  !(whole.isEmpty && fraction.isEmpty) && whole.all Char.isDigit && fraction.all Char.isDigit

/-- The text is a decimal numeral with an optional sign, fraction and exponent. -/
def isNumeral (cs : List Char) : Bool :=
  let (mantissa, exponent) := cutExponent (dropSign cs)
  isMantissa mantissa && exponent.all fun ds => !ds.isEmpty && ds.all Char.isDigit

/-- The literal of a value. -/
def literalChars : Value → List Char
  | .null => ['N', 'U', 'L', 'L']
  | .bool b => [if b then '1' else '0']
  | .int32 n => Text.integer n.toInt
  | .int64 n => Text.integer n.toInt
  | .float32 x => if x.isFinite then x.text else quote x.text
  | .float64 x => if x.isFinite then x.text else quote x.text
  | .decimal s =>
    let trimmed := Text.trim s.toList
    if isNumeral trimmed then trimmed else quote s.toList
  | .string s => quote s.toList
  | .bytes b => 'X' :: '\'' :: (b.flatMap Text.hexByte ++ ['\''])
  | .date d => '\'' :: (d.text ++ ['\''])
  | .time t => '\'' :: (t.text ++ ['\''])
  | .dateTime t => '\'' :: (t.text ++ ['\''])
  | .instant t => '\'' :: (t.text ++ ['\''])

/-- The literal of a value, as a string. -/
def literal (v : Value) : String := String.ofList (literalChars v)

/-- The text that is sent for a statement with parameters. Without parameters the text is sent as it
is, question marks and all. -/
def bind (sql : String) (params : List Value) : Except Error String :=
  if params = [] then .ok sql else (Template.parse sql).render params literal

end SqlProbe.Sql
