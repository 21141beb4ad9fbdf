/-!
# Readers of TOML

A reader takes a part off the front of a text, or fails. Lines end with a line feed, before which a
carriage return may stand; between the parts of a line there may be spaces and tabs.
-/

namespace SqlProbe.Toml

/-- A reader of a part of a text. -/
abbrev Reader (α : Type) := StateT (List Char) Option α

variable {α : Type}

namespace Reader

/-- The text that is left. -/
def rest : Reader (List Char) := get

/-- Takes an expected text. -/
def expect (expected : String) : Reader Unit := fun cs =>
  if expected.toList.isPrefixOf cs then some ((), cs.drop expected.length) else none

/-- The text that is left begins with an expected one. -/
def sees (expected : String) : Reader Bool := fun cs =>
  some (expected.toList.isPrefixOf cs, cs)

/-- Takes an expected text if it is there, and tells whether it is. -/
def accept (expected : String) : Reader Bool := do
  if ← sees expected then
    expect expected
    pure true
  else pure false

/-- Takes the characters of a class. -/
def takeWhile (p : Char → Bool) : Reader (List Char) := fun cs => some (cs.span p)

/-- Reads items for as long as each is followed by a mark. -/
def separatedFor (item : Reader α) (mark : String) : Nat → Reader (List α)
  | 0 => failure
  | fuel + 1 => do
    let head ← item
    if ← accept mark then
      let tail ← separatedFor item mark fuel
      pure (head :: tail)
    else pure [head]

/-- Reads one item or more with a mark between each two. -/
def separated (item : Reader α) (mark : String) : Reader (List α) := do
  separatedFor item mark ((← rest).length + 1)

end Reader

/-- A space or a tab. -/
def isBlank (c : Char) : Bool := c = ' ' || c = '\t'

/-- A character that may stand in comments and in strings. -/
def isText (c : Char) : Bool := c = '\t' || (' ' ≤ c && c ≤ '~') || 0x80 ≤ c.toNat

/-- Takes spaces and tabs. -/
def blanks : Reader Unit := do let _ ← Reader.takeWhile isBlank

/-- Takes the end of a line if it is there. -/
def newline? : List Char → Option (List Char)
  | '\n' :: cs => some cs
  | '\r' :: '\n' :: cs => some cs
  | _ => none

/-- Takes the end of a line, or finds the end of the text. -/
def lineEnd : Reader Unit := fun cs =>
  if cs = [] then some ((), []) else (newline? cs).map fun cs => ((), cs)

/-- Takes a comment if one begins here. -/
def comment : Reader Unit := do
  if ← Reader.sees "#" then let _ ← Reader.takeWhile isText

/-- Takes what may stand behind the last part of a line, and its end. -/
def lineRest : Reader Unit := do
  blanks
  comment
  lineEnd

/-- Takes blanks, comments and ends of lines for as long as there are any. -/
def skipLines : Nat → Reader Unit
  | 0 => pure ()
  | fuel + 1 => do
    blanks
    let cs ← Reader.rest
    match newline? cs with
    | some rest =>
      set rest
      skipLines fuel
    | none =>
      if cs.head? = some '#' then
        comment
        match newline? (← Reader.rest) with
        | some rest =>
          set rest
          skipLines fuel
        | none => failure
      else pure ()

/-- Takes all blanks, comments and ends of lines. -/
def gap : Reader Unit := do skipLines ((← Reader.rest).length + 1)

end SqlProbe.Toml
