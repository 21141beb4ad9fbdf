import SqlProbe.Error
import SqlProbe.Value

/-!
# Parameter bindings

The parameters of a statement, counted from one. Each is unbound or holds the value that was bound
to it last.
-/

namespace SqlProbe.Sql

/-- The parameters of a statement. -/
structure Bindings where
  slots : List (Option Value)
  deriving DecidableEq

namespace Bindings

/-- The given number of parameters, all unbound. -/
def unbound (count : Nat) : Bindings := ⟨List.replicate count none⟩

/-- The number of parameters. -/
def size (bindings : Bindings) : Nat := bindings.slots.length

/-- The value bound to a parameter. -/
def get? (bindings : Bindings) (index : Nat) : Option Value :=
  if index = 0 then none else (bindings.slots[index - 1]?).join

/-- The error for a parameter that the statement does not have. -/
def outOfRange (index size : Nat) : Error :=
  ⟨.query, s!"parameter index {index} is out of range (1..={size})"⟩

/-- The error for a parameter without a value. -/
def missing (index : Nat) : Error := ⟨.query, s!"no value specified for parameter {index}"⟩

/-- Binds a value to a parameter. -/
def bind (bindings : Bindings) (index : Nat) (value : Value) : Except Error Bindings :=
  if 1 ≤ index ∧ index ≤ bindings.size then .ok ⟨bindings.slots.set (index - 1) (some value)⟩
  else .error (outOfRange index bindings.size)

/-- Unbinds every parameter. -/
def clear (bindings : Bindings) : Bindings := unbound bindings.size

/-- The values of the slots, the first of which belongs to the parameter `index`. -/
def valuesFrom (index : Nat) : List (Option Value) → Except Error (List Value)
  | [] => .ok []
  | none :: _ => .error (missing index)
  | some value :: slots => (valuesFrom (index + 1) slots).map (value :: ·)

/-- The bound values in order, or an error that names the first unbound parameter. -/
def values (bindings : Bindings) : Except Error (List Value) := valuesFrom 1 bindings.slots

end Bindings

end SqlProbe.Sql
