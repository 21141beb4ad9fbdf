import SqlProbe.Toml.Scalar
import SqlProbe.Toml.String
import SqlProbe.Toml.Table

/-!
# TOML documents

A document is read into JSON: a table becomes an object, an array of tables an array. Lines before
the first header belong to the table of the whole document.
-/

namespace SqlProbe.Toml

mutual

/-- Reads a value; arrays and inline tables are nested as deep as the first argument says. -/
def value : Nat → Reader Json
  | 0 => failure
  | depth + 1 => do
    match (← Reader.rest).head? with
    | some '"' | some '\'' => .string <$> string
    | some '[' =>
      Reader.expect "["
      .array <$> items depth
    | some '\x7b' =>
      Reader.expect "\x7b"
      blanks
      let table ← if ← Reader.sees "\x7d" then pure { origin := .opened } else pairs depth
      Reader.expect "\x7d"
      pure table.toJson
    | _ => word
  termination_by depth => (depth, 0, 0)

/-- Reads the items of an array and its end. -/
def items (depth : Nat) : Reader (List Json) := do
  itemsFor depth ((← Reader.rest).length + 1)
  termination_by (depth, 2, 0)

/-- Reads at most so many items of an array and its end. -/
def itemsFor (depth : Nat) : Nat → Reader (List Json)
  | 0 => failure
  | fuel + 1 => do
    gap
    if ← Reader.accept "]" then pure []
    else
      let head ← value depth
      gap
      if ← Reader.accept "," then
        let tail ← itemsFor depth fuel
        pure (head :: tail)
      else
        Reader.expect "]"
        pure [head]
  termination_by fuel => (depth, 1, fuel)

/-- Reads the keys and values of an inline table. -/
def pairs (depth : Nat) : Reader Table := do
  let entries ← Reader.separated (pair depth) ","
  liftM (entries.foldlM (fun (table : Table) (key, json) => table.insert key json)
    { origin := .opened })
  termination_by (depth, 2, 0)

/-- Reads a key and its value in an inline table. -/
def pair (depth : Nat) : Reader (List String × Json) := do
  let key ← key
  Reader.expect "="
  blanks
  let json ← value depth
  blanks
  pure (key, json)
  termination_by (depth, 1, 0)

end

/-- A document as far as it has been read: its tables, and the header of the one that is open. -/
structure Draft where
  root : Table := { origin := .opened }
  header : List String := []

namespace Draft

/-- Adds a value to the table that is open. -/
def insert (draft : Draft) (key : List String) (json : Json) : Option Draft := do
  pure { draft with root := ← draft.root.update false (Table.insert key json) draft.header }

/-- Opens a table. -/
def openTable (draft : Draft) (header : List String) : Option Draft := do
  pure ⟨← draft.root.openTable header, header⟩

/-- Begins another table of an array of tables. -/
def openItem (draft : Draft) (header : List String) : Option Draft := do
  pure ⟨← draft.root.openItem header, header⟩

end Draft

/-- Reads a header. -/
def header (draft : Draft) : Reader Draft := do
  let isItem ← Reader.accept "[["
  if !isItem then Reader.expect "["
  let path ← key
  Reader.expect (if isItem then "]]" else "]")
  lineRest
  liftM (if isItem then draft.openItem path else draft.openTable path)

/-- Reads a key and its value on a line of their own. -/
def entry (draft : Draft) : Reader Draft := do
  let path ← key
  Reader.expect "="
  blanks
  let json ← value ((← Reader.rest).length + 1)
  lineRest
  liftM (draft.insert path json)

/-- Reads at most so many lines. -/
def lines : Nat → Draft → Reader Draft
  | 0, _ => failure
  | fuel + 1, draft => do
    blanks
    let cs ← Reader.rest
    match cs with
    | [] => pure draft
    | '#' :: _ => do
      lineRest
      lines fuel draft
    | '[' :: _ => header draft >>= lines fuel
    | _ =>
      match newline? cs with
      | some rest =>
        set rest
        lines fuel draft
      | none => entry draft >>= lines fuel

/-- Reads a document, which may begin with a byte order mark. -/
def read? (text : List Char) : Option Json := do
  let text := if text.head? = some '\uFEFF' then text.tail else text
  let (draft, _) ← (lines (text.length + 1) {}).run text
  pure draft.root.toJson

end SqlProbe.Toml
