import SqlProbe.Json.Number

/-!
# Writing JSON

Two forms of one text: all on one line without blanks, and one value or field a line, indented by
two blanks for each level.
-/

namespace SqlProbe.Json

/-- A character inside a string. -/
def writtenChar (c : Char) : List Char :=
  if c = '"' then ['\\', '"']
  else if c = '\\' then ['\\', '\\']
  else if c = '\n' then ['\\', 'n']
  else if c = '\r' then ['\\', 'r']
  else if c = '\t' then ['\\', 't']
  else if c = '\x08' then ['\\', 'b']
  else if c = '\x0c' then ['\\', 'f']
  else if c.toNat < 0x20 then '\\' :: 'u' :: '0' :: '0' :: Text.hexByte (UInt8.ofNat c.toNat)
  else [c]

/-- A string between quotes. -/
def writtenString (s : String) : String :=
  String.ofList ('"' :: (s.toList.flatMap writtenChar ++ ['"']))

/-- The text of a value that has no parts. -/
def scalar : Json → String
  | null => "null"
  | bool b => if b then "true" else "false"
  | integer n => String.ofList (Text.integer n)
  | float x => String.ofList (floatText x)
  | single x => String.ofList (floatText x)
  | string s => writtenString s
  | array _ => "[]"
  | object _ => "\x7b\x7d"

mutual

/-- The text of a value on one line. -/
def compact : Json → String
  | array items => "[" ++ compactItems items ++ "]"
  | object fields => "\x7b" ++ compactFields fields ++ "\x7d"
  | value => value.scalar

/-- Items with commas between. -/
def compactItems : List Json → String
  | [] => ""
  | [item] => compact item
  | item :: items => compact item ++ "," ++ compactItems items

/-- Fields with commas between. -/
def compactFields : List (String × Json) → String
  | [] => ""
  | [(name, item)] => writtenString name ++ ":" ++ compact item
  | (name, item) :: fields =>
    writtenString name ++ ":" ++ compact item ++ "," ++ compactFields fields

end

/-- A line break and the indentation of a level. -/
def newLine (level : Nat) : String := "\n" ++ String.ofList (List.replicate (2 * level) ' ')

mutual

/-- The text of a value over several lines, where its first line stands at a level. -/
def pretty (level : Nat) : Json → String
  | array (item :: items) => "[" ++ prettyItems (level + 1) (item :: items) ++ newLine level ++ "]"
  | object (field :: fields) =>
    "\x7b" ++ prettyFields (level + 1) (field :: fields) ++ newLine level ++ "\x7d"
  | value => value.scalar

/-- Items, each on lines of its own. -/
def prettyItems (level : Nat) : List Json → String
  | [] => ""
  | [item] => newLine level ++ pretty level item
  | item :: items => newLine level ++ pretty level item ++ "," ++ prettyItems level items

/-- Fields, each on lines of its own. -/
def prettyFields (level : Nat) : List (String × Json) → String
  | [] => ""
  | [(name, item)] => newLine level ++ writtenString name ++ ": " ++ pretty level item
  | (name, item) :: fields =>
    newLine level ++ writtenString name ++ ": " ++ pretty level item ++ "," ++
      prettyFields level fields

end

end SqlProbe.Json
