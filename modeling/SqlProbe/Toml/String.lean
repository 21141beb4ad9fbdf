import SqlProbe.Text.Numeral
import SqlProbe.Toml.Reader

/-!
# Strings and keys of TOML

Strings stand between quotation marks, with escapes, or between apostrophes, without. Three of
either begin a string of many lines, in which one or two may stand by themselves.
-/

namespace SqlProbe.Toml

/-- The character behind a backslash that stands for another one. -/
def escaped? : Char → Option Char
  | 'b' => some '\x08'
  | 't' => some '\t'
  | 'n' => some '\n'
  | 'f' => some '\x0c'
  | 'r' => some '\r'
  | '"' => some '"'
  | '\\' => some '\\'
  | _ => none

/-- The character with a number in hexadecimal. -/
def numbered? (digits : List Char) : Option Char := do
  let values ← digits.mapM Text.hexDigit?
  let n := values.foldl (fun n d => 16 * n + d) 0
  if n.isValidChar then some (Char.ofNat n) else none

/-- The content of a string up to the closing quotation mark, and what is behind that. -/
def basicContent : List Char → Option (List Char × List Char)
  | '"' :: rest => some ([], rest)
  | '\\' :: 'u' :: a :: b :: c :: d :: rest => do
    let (content, rest) ← basicContent rest
    pure ((← numbered? [a, b, c, d]) :: content, rest)
  | '\\' :: 'U' :: a :: b :: c :: d :: e :: f :: g :: h :: rest => do
    let (content, rest) ← basicContent rest
    pure ((← numbered? [a, b, c, d, e, f, g, h]) :: content, rest)
  | '\\' :: c :: rest => do
    let (content, rest) ← basicContent rest
    pure ((← escaped? c) :: content, rest)
  | c :: rest => do
    if isText c then
      let (content, rest) ← basicContent rest
      pure (c :: content, rest)
    else none
  | [] => none

/-- The content of a string up to the closing apostrophe, and what is behind that. -/
def literalContent : List Char → Option (List Char × List Char)
  | '\'' :: rest => some ([], rest)
  | c :: rest => do
    if isText c then
      let (content, rest) ← literalContent rest
      pure (c :: content, rest)
    else none
  | [] => none

/-- Only blanks are between here and the end of the line. -/
def endsLine (cs : List Char) : Bool := (newline? (cs.dropWhile isBlank)).isSome

/-- The content of a string of many lines up to the three closing quotation marks, two of which may
belong to the content if there are five. Behind a backslash at the end of a line, blanks and ends of
lines are skipped. -/
def longBasicContent (skipping : Bool) : List Char → Option (List Char × List Char)
  | '"' :: '"' :: '"' :: '"' :: '"' :: rest => some (['"', '"'], rest)
  | '"' :: '"' :: '"' :: '"' :: rest => some (['"'], rest)
  | '"' :: '"' :: '"' :: rest => some ([], rest)
  | '\\' :: 'u' :: a :: b :: c :: d :: rest => do
    let (content, rest) ← longBasicContent false rest
    pure ((← numbered? [a, b, c, d]) :: content, rest)
  | '\\' :: 'U' :: a :: b :: c :: d :: e :: f :: g :: h :: rest => do
    let (content, rest) ← longBasicContent false rest
    pure ((← numbered? [a, b, c, d, e, f, g, h]) :: content, rest)
  | '\\' :: c :: rest => do
    if endsLine (c :: rest) then longBasicContent true rest
    else
      let (content, rest) ← longBasicContent false rest
      pure ((← escaped? c) :: content, rest)
  | '\r' :: '\n' :: rest => do
    let (content, rest) ← longBasicContent skipping rest
    pure (if skipping then content else '\n' :: content, rest)
  | c :: rest => do
    if c = '\n' || isBlank c then
      let (content, rest) ← longBasicContent skipping rest
      pure (if skipping then content else c :: content, rest)
    else if isText c then
      let (content, rest) ← longBasicContent false rest
      pure (c :: content, rest)
    else none
  | [] => none

/-- The content of a string of many lines up to the three closing apostrophes, two of which may
belong to the content if there are five. -/
def longLiteralContent : List Char → Option (List Char × List Char)
  | '\'' :: '\'' :: '\'' :: '\'' :: '\'' :: rest => some (['\'', '\''], rest)
  | '\'' :: '\'' :: '\'' :: '\'' :: rest => some (['\''], rest)
  | '\'' :: '\'' :: '\'' :: rest => some ([], rest)
  | '\r' :: '\n' :: rest => do
    let (content, rest) ← longLiteralContent rest
    pure ('\n' :: content, rest)
  | c :: rest => do
    if c = '\n' || isText c then
      let (content, rest) ← longLiteralContent rest
      pure (c :: content, rest)
    else none
  | [] => none

/-- The text without the end of a line that it begins with. -/
def dropNewline (cs : List Char) : List Char := (newline? cs).getD cs

/-- Reads a string of one line. -/
def shortString : Reader String := fun cs => do
  let (content, rest) ← match cs with
    | '"' :: rest => basicContent rest
    | '\'' :: rest => literalContent rest
    | _ => none
  pure (String.ofList content, rest)

/-- Reads a string. -/
def string : Reader String := fun cs => do
  let long (read : List Char → Option (List Char × List Char)) (rest : List Char) :
      Option (String × List Char) := do
    let (content, rest) ← read (dropNewline rest)
    pure (String.ofList content, rest)
  match cs with
  | '"' :: '"' :: '"' :: rest => long (longBasicContent false) rest
  | '\'' :: '\'' :: '\'' :: rest => long longLiteralContent rest
  | _ => shortString cs

/-- A character of a key without quotes. -/
def isBare (c : Char) : Bool := c.isAlphanum || c = '-' || c = '_'

/-- Reads a part of a key. -/
def keyPart : Reader String := do
  blanks
  let cs ← Reader.rest
  let part ←
    if cs.head? = some '"' || cs.head? = some '\'' then shortString
    else
      let bare ← Reader.takeWhile isBare
      if bare = [] then failure else pure (String.ofList bare)
  blanks
  pure part

/-- Reads a key, which has one part or more with points between them. -/
def key : Reader (List String) := Reader.separated keyPart "."

end SqlProbe.Toml
