import SqlProbe.Sql.Bindings
import SqlProbe.Sql.Literal
import SqlProbe.Sql.Template

/-!
# Prepared statements

A statement that the client prepares: its text is cut at the placeholders once, and each run puts
the literals of the bound values into the gaps.
-/

namespace SqlProbe.Sql

/-- A prepared statement. -/
structure Statement where
  template : Template
  bindings : Bindings
  deriving DecidableEq

namespace Statement

/-- Prepares a text; all its parameters are unbound. -/
def prepare (sql : String) : Statement :=
  let template := Template.parse sql
  ⟨template, .unbound template.placeholderCount⟩

/-- The text that was prepared. -/
def sql (statement : Statement) : String := statement.template.sql

/-- The number of parameters that can be bound. -/
def parameterCount (statement : Statement) : Nat := statement.bindings.size

/-- Binds a value to a parameter. -/
def bind (statement : Statement) (index : Nat) (value : Value) : Except Error Statement :=
  (statement.bindings.bind index value).map fun bindings => { statement with bindings }

/-- Unbinds every parameter. -/
def clear (statement : Statement) : Statement :=
  { statement with bindings := statement.bindings.clear }

/-- The text to run, with the literals of the bound values. -/
def render (statement : Statement) : Except Error String := do
  statement.template.render (← statement.bindings.values) literal

end Statement

end SqlProbe.Sql
