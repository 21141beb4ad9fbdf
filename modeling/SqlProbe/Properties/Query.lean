import SqlProbe.Error
import SqlProbe.Properties.Basic
import SqlProbe.Text.Cut
import SqlProbe.Text.Percent

/-!
# Query strings

Properties as the query of a URL: pairs of a name and a value with an equals sign between, pairs
with an ampersand between. Names and values are percent-encoded, and a plus sign stands for a blank.
Empty pairs are ignored, and a pair without an equals sign has an empty value.
-/

namespace SqlProbe.Properties

/-- The text that an encoded name or value stands for. -/
def decodePart (cs : List Char) : Except Error String :=
  match Text.Percent.decode (Text.replaceChar '+' ' ' cs) with
  | .ok text => .ok (String.ofList text)
  | .error fault => .error ⟨.configuration, "invalid percent-encoding: " ++ fault.message⟩

/-- The name and the value of a pair. -/
def cutPair (pair : List Char) : List Char × List Char :=
  (Text.cutAt? '=' pair).getD (pair, [])

/-- The error for a pair without a name. -/
def unnamed (query : String) : Error :=
  ⟨.configuration, s!"connection property without a name in '{query}'"⟩

/-- Sets the property of a pair. -/
def setPair (query : String) (bag : Properties) (pair : List Char) : Except Error Properties := do
  let (key, value) := cutPair pair
  let key ← decodePart key
  if key = "" then throw (unnamed query)
  let value ← decodePart value
  pure (bag.set key value)

/-- The properties of a query string. -/
def parseQuery (query : String) : Except Error Properties :=
  ((Text.splitAtChar '&' query.toList).filter (· ≠ [])).foldlM (setPair query) empty

end SqlProbe.Properties
