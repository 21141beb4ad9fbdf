import SqlProbe.Json.Basic

/-!
# Records in JSON

A record is read from an object by the names of its fields, or from an array by their order. By
name, a field may be missing where it is optional, may not be given twice, and is ignored where it
is unknown; by order, all fields without a default have to be there and none may be left over.
-/

namespace SqlProbe.Json

/-- The parts of a record, one for each of its fields, and whether they were given by name. -/
structure Parts where
  byName : Bool
  parts : List (Option Json)

/-- The parts of a record with the given field names. -/
def parts? (names : List String) : Json → Option Parts
  | object fields =>
    let known := (fields.map (·.1)).filter fun name => names.contains name
    if known.Nodup then
      some ⟨true, names.map fun name => (fields.find? fun field => field.1 == name).map (·.2)⟩
    else none
  | array items =>
    if items.length ≤ names.length then
      some ⟨false, items.map some ++ List.replicate (names.length - items.length) none⟩
    else none
  | _ => none

/-- The parts of a record that has no other fields: an unknown name is refused. Behind the last
field in order there may be more items only where `surplus` says so. -/
def closedParts? (surplus : Bool) (names : List String) : Json → Option Parts
  | object fields =>
    if fields.all fun field => names.contains field.1 then parts? names (object fields) else none
  | array items => parts? names (array (if surplus then items.take names.length else items))
  | _ => none

namespace Parts

/-- The part at a position. -/
def get? (parts : Parts) (i : Nat) : Option Json := parts.parts[i]?.join

/-- A field that has to be there. -/
def required {α : Type} (parts : Parts) (i : Nat) (read : Json → Option α) : Option α :=
  (parts.get? i).bind read

/-- A field that may be null, or missing from an object. -/
def optional {α : Type} (parts : Parts) (i : Nat) (read : Json → Option α) :
    Option (Option α) :=
  match parts.get? i with
  | none => if parts.byName then some none else none
  | some null => some none
  | some value => (read value).map some

/-- A field with a default for when it is missing. -/
def defaulted {α : Type} (parts : Parts) (i : Nat) (default : α) (read : Json → Option α) :
    Option α :=
  match parts.get? i with
  | none => some default
  | some value => read value

end Parts

/-- A string. -/
def asString? : Json → Option String
  | string s => some s
  | _ => none

/-- A truth value. -/
def asBool? : Json → Option Bool
  | bool b => some b
  | _ => none

/-- A whole number between two bounds. -/
def asInteger? (low high : Int) : Json → Option Int
  | integer n => if low ≤ n ∧ n ≤ high then some n else none
  | _ => none

/-- A natural number up to a bound. -/
def asNatural? (limit : Nat) (value : Json) : Option Nat := (asInteger? 0 limit value).map Int.toNat

/-- A natural number of 64 bits. -/
def asWord? : Json → Option Nat := asNatural? (Nat.pow 2 64 - 1)

/-- A list of values of one type. -/
def asList? {α : Type} (read : Json → Option α) : Json → Option (List α)
  | array items => items.mapM read
  | _ => none

/-- A value, or null. -/
def asOption? {α : Type} (read : Json → Option α) : Json → Option (Option α)
  | null => some none
  | value => (read value).map some

end SqlProbe.Json
