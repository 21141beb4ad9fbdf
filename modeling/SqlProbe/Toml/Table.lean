import SqlProbe.Json.Basic

/-!
# Tables of TOML

Tables as they grow while a text is read. A table has an origin, which decides what may still be
added to it: a header opens a table once, a key with points makes tables that only other such keys
extend, and an array of tables is extended at its last.
-/

namespace SqlProbe.Toml

/-- Where a table comes from. -/
inductive Origin where
  /-- A header of its own, or an inline table. -/
  | opened
  /-- A header of a table inside it. -/
  | implied
  /-- A key with points. -/
  | dotted
  deriving DecidableEq

/-- What stands under a key. -/
inductive Node where
  | value (json : Json)
  | table (origin : Origin) (fields : List (String × Node))
  | tables (items : List (List (String × Node)))

/-- A table. -/
structure Table where
  origin : Origin
  fields : List (String × Node) := []

namespace Table

/-- What stands under a key. -/
def get? (table : Table) (key : String) : Option Node := table.fields.lookup key

/-- Puts something under a key, in the place of what is there. -/
def put (table : Table) (key : String) (node : Node) : Table :=
  let others := table.fields.filter fun field => field.1 ≠ key
  { table with fields := others ++ [(key, node)] }

/-- The table as something under a key. -/
def node (table : Table) : Node := .table table.origin table.fields

/-- Changes the table at the end of a path, along which tables are made where there is nothing. Keys
with points do not lead through tables with a header of their own. -/
def update (dotted : Bool) (change : Table → Option Table) : List String → Table → Option Table
  | [], table => change table
  | key :: path, table => do
    let fresh : Table := { origin := if dotted then .dotted else .implied }
    match table.get? key with
    | none => (fun inner => table.put key inner.node) <$> update dotted change path fresh
    | some (.table origin fields) =>
      if dotted && origin = .opened then none
      else (fun inner => table.put key inner.node) <$> update dotted change path ⟨origin, fields⟩
    | some (.tables items) =>
      let (last, others) ← match items.reverse with
        | last :: others => some (last, others.reverse)
        | [] => none
      (fun inner => table.put key (.tables (others ++ [inner.fields]))) <$>
        update dotted change path ⟨.opened, last⟩
    | some (.value _) => none

/-- Adds a value under a key with points, which nothing stands under yet. -/
def insert (key : List String) (value : Json) (table : Table) : Option Table :=
  match key.reverse with
  | [] => none
  | last :: path =>
    let add (inner : Table) : Option Table :=
      if (inner.origin = .dotted) = (path ≠ []) ∧ (inner.get? last).isNone then
        some (inner.put last (.value value))
      else none
    table.update true add path.reverse

/-- Opens a table by its header. -/
def openTable (header : List String) (table : Table) : Option Table :=
  match header.reverse with
  | [] => none
  | last :: path =>
    table.update false (fun parent =>
      match parent.get? last with
      | none => some (parent.put last (.table .opened []))
      | some (.table .implied fields) => some (parent.put last (.table .opened fields))
      | some _ => none) path.reverse

/-- Begins another table of an array of tables. -/
def openItem (header : List String) (table : Table) : Option Table :=
  match header.reverse with
  | [] => none
  | last :: path =>
    table.update false (fun parent =>
      match parent.get? last with
      | none => some (parent.put last (.tables [[]]))
      | some (.tables items) => some (parent.put last (.tables (items ++ [[]])))
      | some _ => none) path.reverse

end Table

mutual

/-- The JSON form of what stands under a key. -/
def Node.toJson : Node → Json
  | .value json => json
  | .table _ fields => .object (fieldsToJson fields)
  | .tables items => .array (itemsToJson items)

/-- The JSON form of the fields of a table. -/
def fieldsToJson : List (String × Node) → List (String × Json)
  | [] => []
  | (key, node) :: rest => (key, node.toJson) :: fieldsToJson rest

/-- The JSON form of an array of tables. -/
def itemsToJson : List (List (String × Node)) → List Json
  | [] => []
  | fields :: rest => .object (fieldsToJson fields) :: itemsToJson rest

end

/-- The JSON form of a table. -/
def Table.toJson (table : Table) : Json := table.node.toJson

end SqlProbe.Toml
