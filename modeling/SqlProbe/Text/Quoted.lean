import SqlProbe.Text.Hidden

/-!
# Quoted text

A text between double quotes with everything visible: quotes and backslashes behind a backslash,
common control characters by letter, and other hidden characters by their number.
-/

namespace SqlProbe.Text

/-- A character inside quoted text. -/
def quotedChar (c : Char) : List Char :=
  if c = '\x00' then ['\\', '0']
  else if c = '\t' then ['\\', 't']
  else if c = '\r' then ['\\', 'r']
  else if c = '\n' then ['\\', 'n']
  else if c = '"' then ['\\', '"']
  else if c = '\\' then ['\\', '\\']
  else if isHidden c then
    ['\\', 'u', '\x7b'] ++ Nat.toDigits 16 c.toNat ++ ['\x7d']
  else [c]

/-- A text between quotes. -/
def quoted (s : String) : String :=
  String.ofList ('"' :: (s.toList.flatMap quotedChar ++ ['"']))

/-- A path between quotes, in which an apostrophe too stands behind a backslash. -/
def quotedPath (s : String) : String :=
  let char (c : Char) : List Char := if c = '\'' then ['\\', c] else quotedChar c
  String.ofList ('"' :: (s.toList.flatMap char ++ ['"']))

end SqlProbe.Text
