import SqlProbe.Number.Binary

/-!
# JSON values

A JSON value as a tree. Numbers that are whole and fit 64 bits are kept as such, all others as
binary numbers; an object keeps its fields in the order of the text, repeated names included,
because readers of records refuse a repeated name.
-/

namespace SqlProbe

/-- A JSON value. -/
inductive Json where
  | null
  | bool (b : Bool)
  | integer (n : Int)
  /-- A number that is not whole or does not fit 64 bits; beyond the range it is an infinity. -/
  | float (x : Number.Binary64)
  /-- A number to be written with the digits of single precision. -/
  | single (x : Number.Binary32)
  | string (s : String)
  | array (items : List Json)
  | object (fields : List (String × Json))

namespace Json

/-- A natural number. -/
def natural (n : Nat) : Json := integer n

/-- Some value, or null. -/
def orNull {α : Type} (f : α → Json) : Option α → Json
  | some a => f a
  | none => null

/-- The value of the first field with a name. -/
def field? (name : String) : Json → Option Json
  | object fields => (fields.find? fun field => field.1 == name).map (·.2)
  | _ => none

/-- The value is null. -/
def isNull : Json → Bool
  | null => true
  | _ => false

end Json

end SqlProbe
