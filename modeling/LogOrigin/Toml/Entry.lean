import LogOrigin.Json.Value

/-!
# Tables under construction

The statements of a TOML document build a tree of tables. How a table came about decides whether a
later statement may add to it: a table is headed once, a table that is only implied by longer
headers may still be headed, and dotted keys add only to tables that dotted keys made.
-/

namespace LogOrigin.Toml

/-- How a table came about. -/
inductive TableKind where
  /-- By a header of its own. -/
  | headed
  /-- By the header of a table inside it. -/
  | implied
  /-- By a dotted key. -/
  | dotted
  deriving DecidableEq, Repr

/-- What a key of a table stands for. -/
inductive Entry where
  | value (v : Json.Value)
  | table (kind : TableKind) (entries : List (String × Entry))
  /-- An array of tables. -/
  | rows (tables : List (List (String × Entry)))

/-- The entries of a table in the order of their appearance. -/
abbrev Entries := List (String × Entry)

namespace Entries

/-- What a key stands for. -/
def get? (entries : Entries) (key : String) : Option Entry :=
  (entries.find? (·.1 == key)).map (·.2)

/-- Replaces what a key stands for, or adds it at the end. -/
def put (key : String) (entry : Entry) : Entries → Entries
  | [] => [(key, entry)]
  | e :: rest => if e.1 == key then (key, entry) :: rest else e :: put key entry rest

/-- The entries without a key. -/
def remove (entries : Entries) (key : String) : Entries :=
  entries.filter (·.1 != key)

/-- Changes the table at the end of a path. `byKey` says that the path comes from a dotted key: new
tables are then dotted, and tables with a header are left alone. The change is told how the table
came about. -/
def change (byKey : Bool) (f : TableKind → Entries → Option Entries) (kind : TableKind) :
    List String → Entries → Option Entries
  | [], entries => f kind entries
  | key :: path, entries =>
    match get? entries key with
    | none => do
      let fresh := if byKey then TableKind.dotted else .implied
      let inner ← change byKey f fresh path []
      return put key (.table fresh inner) entries
    | some (.value _) => none
    | some (.rows tables) =>
      match tables.reverse with
      | [] => none
      | last :: before => do
        let inner ← change byKey f .headed path last
        return put key (.rows (before.reverse ++ [inner])) entries
    | some (.table kind inner) =>
      if byKey && kind == .headed then none
      else do
        let inner ← change byKey f kind path inner
        return put key (.table kind inner) entries

/-- Adds a value under a key with a dotted path in front. The path must not end in a table that
other statements made, nor the key be taken. -/
def addValue (path : List String) (key : String) (v : Json.Value) (kind : TableKind)
    (entries : Entries) : Option Entries :=
  change true (fun kind entries =>
    if (kind == .dotted) == path.isEmpty || (get? entries key).isSome then none
    else some (entries ++ [(key, .value v)])) kind path entries

/-- Adds a value to the table of a header. -/
def addValueAt (header : List String) (path : List String) (key : String) (v : Json.Value)
    (entries : Entries) : Option Entries :=
  change false (fun _ entries => addValue path key v .headed entries) .headed header entries

/-- Heads a table, which must be new or only implied so far; it moves to the end. -/
def addTable (path : List String) (key : String) (entries : Entries) : Option Entries :=
  change false (fun _ entries =>
    match get? entries key with
    | none => some (entries ++ [(key, .table .headed [])])
    | some (.table .implied inner) => some (remove entries key ++ [(key, .table .headed inner)])
    | some _ => none) .headed path entries

/-- Adds a table to an array of tables. -/
def addRow (path : List String) (key : String) (entries : Entries) : Option Entries :=
  change false (fun _ entries =>
    match get? entries key with
    | none => some (entries ++ [(key, .rows [[]])])
    | some (.rows tables) => some (put key (.rows (tables ++ [[]])) entries)
    | some _ => none) .headed path entries

end Entries

mutual

/-- The value of an entry. -/
def Entry.toValue : Entry → Json.Value
  | .value v => v
  | .table _ entries => .object (membersOf entries)
  | .rows tables => .list (rowsOf tables)

/-- The members of a table. -/
def membersOf : List (String × Entry) → List (String × Json.Value)
  | [] => []
  | (key, entry) :: rest => (key, entry.toValue) :: membersOf rest

/-- The tables of an array. -/
def rowsOf : List (List (String × Entry)) → List Json.Value
  | [] => []
  | table :: rest => .object (membersOf table) :: rowsOf rest

end

end LogOrigin.Toml
