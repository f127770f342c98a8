import CommandShell.Toml.Value

/-!
# Building a TOML document

A document is written piecemeal: `[a.b]` opens a table anywhere in the tree, `[[a]]` opens a new
element of an array of tables, and `a.b = 1` reaches into subtables of the table that is open.
`Draft` is the tree so far together with the table that is open, and its three operations
`Draft.assign`, `Draft.openTable` and `Draft.openElement` refuse what TOML refuses: a key given
twice, a table opened twice, a dotted key that reaches into a table opened by a header, and a
header that names something that is not a table.

Whether a table may still be opened or reached into depends on how it came about, which is the
`Origin` kept with it.
-/

namespace CommandShell.Toml

/-- How a table came about. -/
inductive Origin
  /-- It was opened by a header of its own. -/
  | header
  /-- It lies on the way to a table that was opened. -/
  | path
  /-- It lies on the way of a dotted key. -/
  | dotted
  deriving DecidableEq, Repr

/-- What a key stands for while the document is being built. -/
inductive Item
  | value (v : Value)
  | table (entries : List (String × Item)) (origin : Origin)
  | elements (tables : List (List (String × Item)))

/-- A table under construction. -/
abbrev Entries := List (String × Item)

namespace Entries

/-- Gives `key` another item, in its old place. -/
def replace (entries : Entries) (key : String) (item : Item) : Entries :=
  entries.map fun e => if e.1 == key then (key, item) else e

/-- Changes the table at the end of a path by `change`, which is also told how that table came
about. Missing tables on the way are made. An array of tables stands for its last element. -/
def alter (change : Entries → Origin → Option Entries) (dotted : Bool) :
    List String → Entries → Origin → Option Entries
  | [], entries, origin => change entries origin
  | key :: rest, entries, _ =>
    match entries.lookup key with
    | none => do
      let made : Origin := if dotted then .dotted else .path
      let sub ← alter change dotted rest [] made
      some (entries ++ [(key, .table sub made)])
    | some (.value _) => none
    | some (.elements tables) => do
      let last ← tables.getLast?
      let sub ← alter change dotted rest last .header
      some (replace entries key (.elements (tables.dropLast ++ [sub])))
    | some (.table sub origin) =>
      if dotted && origin == .header then none
      else do
        let sub ← alter change dotted rest sub origin
        some (replace entries key (.table sub origin))

/-- The table at the end of a path, empty if it does not exist yet. There is none if the path goes
through a value. -/
def reach : List String → Entries → Option Entries
  | [], entries => some entries
  | key :: rest, entries =>
    match entries.lookup key with
    | none => some []
    | some (.value _) => none
    | some (.elements tables) =>
      match tables.getLast? with
      | none => none
      | some last => reach rest last
    | some (.table sub _) => reach rest sub

end Entries

/-- A document under construction. `isOpen` is the table that assignments go to; it is put into
`root` at `path` when the next one is opened. -/
structure Draft where
  root : Entries := []
  isOpen : Entries := []
  path : List String := []
  isElement : Bool := false

namespace Draft

/-- Assigns a value to a dotted key of the open table. -/
def assign (d : Draft) (path : List String) (key : String) (v : Value) : Option Draft := do
  let add (entries : Entries) (origin : Origin) : Option Entries :=
    -- only dotted keys reach into tables that dotted keys made
    if (origin == .dotted) == path.isEmpty then none
    else if (entries.lookup key).isSome then none
    else some (entries ++ [(key, .value v)])
  let isOpen ← d.isOpen.alter add true path .header
  some { d with isOpen }

/-- Puts the open table into the tree. -/
def close (d : Draft) : Option Entries :=
  match d.path.getLast? with
  | none => some (d.isOpen)
  | some key =>
    let put (entries : Entries) (_ : Origin) : Option Entries :=
      match entries.lookup key with
      | none =>
        some (entries ++
          [(key, if d.isElement then .elements [d.isOpen] else .table d.isOpen .header)])
      | some (.elements tables) =>
        if d.isElement then some (entries.replace key (.elements (tables ++ [d.isOpen]))) else none
      | some (.table _ origin) =>
        if d.isElement || origin == .header then none
        else some (entries.replace key (.table d.isOpen .header))
      | some (.value _) => none
    d.root.alter put false d.path.dropLast .header

/-- Opens a table. One that lies on the way to a table opened before keeps its entries; any other
thing of that name stands in the way. -/
def openTable (d : Draft) (path : List String) (key : String) : Option Draft := do
  let root ← d.close
  let parent ← root.reach path
  let kept ← match parent.lookup key with
    | none => some []
    | some (.table sub .path) => some sub
    | some _ => none
  let root ← root.alter (fun entries _ => some (entries.filter (·.1 != key))) false path .header
  some { root, isOpen := kept, path := path ++ [key], isElement := false }

/-- Opens a new element of an array of tables. -/
def openElement (d : Draft) (path : List String) (key : String) : Option Draft := do
  let root ← d.close
  let check (entries : Entries) (_ : Origin) : Option Entries :=
    match entries.lookup key with
    | none => some (entries ++ [(key, .elements [])])
    | some (.elements _) => some entries
    | some _ => none
  let root ← root.alter check false path .header
  some { root, isOpen := [], path := path ++ [key], isElement := true }

end Draft

/-! ## The finished document -/

mutual

/-- The value that an item stands for. -/
def Item.toValue : Item → Value
  | .value v => v
  | .table entries _ => .table (valuesOf entries)
  | .elements tables => .array (tablesOf tables)

/-- The values of a list of entries. -/
def valuesOf : List (String × Item) → List (String × Value)
  | [] => []
  | (key, item) :: rest => (key, item.toValue) :: valuesOf rest

/-- The values of a list of tables. -/
def tablesOf : List (List (String × Item)) → List Value
  | [] => []
  | t :: rest => .table (valuesOf t) :: tablesOf rest

end

/-- The document, once nothing more is to come. -/
def Draft.finish (d : Draft) : Option Document := do
  some (valuesOf (← d.close))

end CommandShell.Toml
