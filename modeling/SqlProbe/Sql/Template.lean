import SqlProbe.Error
import SqlProbe.Sql.Context

/-!
# Statement templates

SQL text cut at its placeholders. One pass over the text copies every character to the fragment that
is being read, except the placeholders, each of which ends a fragment. Characters that only mean
something together are taken together: two dashes, the marks of a block comment, and a backslash in
quoted text with what it hides.
-/

namespace SqlProbe.Sql

/-- SQL text cut at its placeholders. -/
structure Template where
  /-- The text as it was given. -/
  sql : String
  /-- What stands between the placeholders, so there is one fragment more than placeholders. -/
  fragments : List String
  deriving DecidableEq, Repr

namespace Template

/-- The fragments of a text of which some has been read: `done` holds those that have ended and
`current` is the one that is being read, in the given context. -/
def scan (context : Context) (done : List String) (current : String) : List Char → List String
  | [] => done ++ [current]
  | c :: cs =>
    match context with
    | .code =>
      if c = '?' then scan .code (done ++ [current]) "" cs
      else match Quote.ofChar? c with
      | some mark => scan (.quoted mark) done (current.push c) cs
      | none =>
        if c = '#' then scan .lineComment done (current.push c) cs
        else match c, cs with
        | '-', '-' :: cs =>
          scan (if endsDashes cs then .lineComment else .code) done ((current.push '-').push '-') cs
        | '/', '*' :: cs => scan .blockComment done ((current.push '/').push '*') cs
        | c, cs => scan .code done (current.push c) cs
    | .quoted mark =>
      if c = '\\' ∧ mark.hasEscapes then
        match cs with
        | [] => scan (.quoted mark) done (current.push c) []
        | hidden :: cs => scan (.quoted mark) done ((current.push c).push hidden) cs
      else scan (if c = mark.char then .code else .quoted mark) done (current.push c) cs
    | .lineComment => scan (if c = '\n' then .code else .lineComment) done (current.push c) cs
    | .blockComment =>
      match c, cs with
      | '*', '/' :: cs => scan .code done ((current.push '*').push '/') cs
      | c, cs => scan .blockComment done (current.push c) cs

/-- The template of a text. -/
def parse (sql : String) : Template := ⟨sql, scan .code [] "" sql.toList⟩

/-- The number of placeholders. -/
def placeholderCount (template : Template) : Nat := template.fragments.length - 1

/-- Each of the given texts behind a fragment, and the last fragment behind them all. -/
def fill (template : Template) (texts : List String) : String :=
  String.join (List.zipWith (· ++ ·) template.fragments texts) ++
    template.fragments.getLast?.getD ""

/-- The error for a list of parameters that is not as long as the list of placeholders. -/
def countMismatch (expected supplied : Nat) : Error :=
  ⟨.query, s!"statement expects {expected} parameter(s) but {supplied} were supplied"⟩

/-- The text with every placeholder replaced by the literal of its parameter. -/
def render {α : Type} (template : Template) (params : List α) (literal : α → String) :
    Except Error String :=
  if params.length = template.placeholderCount then .ok (template.fill (params.map literal))
  else .error (countMismatch template.placeholderCount params.length)

end Template

end SqlProbe.Sql
