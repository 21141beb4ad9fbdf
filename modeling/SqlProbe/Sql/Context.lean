import SqlProbe.Text.Blank

/-!
# Code, quotes and comments

What a character of SQL text may belong to, and what opens and closes it.
-/

namespace SqlProbe.Sql

/-- The marks that open and close quoted text. -/
inductive Quote where
  | single
  | double
  | backtick
  deriving DecidableEq, Repr

/-- The character of a mark. -/
def Quote.char : Quote → Char
  | single => '\''
  | double => '"'
  | backtick => '`'

/-- The mark that a character is. -/
def Quote.ofChar? (c : Char) : Option Quote :=
  if c = '\'' then some single
  else if c = '"' then some double
  else if c = '`' then some backtick
  else none

/-- A backslash hides the next character inside this kind of quoted text. -/
def Quote.hasEscapes : Quote → Bool
  | backtick => false
  | _ => true

/-- What a character of SQL text belongs to. -/
inductive Context where
  | code
  | quoted (mark : Quote)
  | lineComment
  | blockComment
  deriving DecidableEq, Repr

/-- A pair of dashes opens a comment when a blank follows it, or nothing. -/
def endsDashes : List Char → Bool
  | [] => true
  | c :: _ => Text.isBlank c

end SqlProbe.Sql
