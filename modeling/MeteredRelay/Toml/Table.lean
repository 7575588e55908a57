/-!
# Tables of a TOML document

A document is a table of names, and its values are texts, numbers, truth values, dates, lists and
further tables.  Numbers with a fraction and dates are kept as they are written.

A name is given a value once, and a table is laid out once.  What may still be added to a table
depends on how it came about, which its `Origin` keeps:

* **`Table.assign`** gives a value to a name that is reached by way of dotted names.  It opens
  tables that only dotted names, or longer headers, have mentioned so far.
* **`Table.layOut`** is what the header of a table does, and **`Table.addRow`** what the header of
  a list of tables does.
* **`Table.within`** makes a change inside the table that a header names.
-/

namespace MeteredRelay.Toml

/-- How a table came about. -/
inductive Origin where
  /-- It was written as a value. -/
  | inline
  /-- A header of its own laid it out. -/
  | header
  /-- A longer header went through it. -/
  | implied
  /-- Dotted names went through it. -/
  | dotted
deriving DecidableEq

/-- A value in a document. -/
inductive Node where
  | text (s : String)
  | integer (n : Int)
  /-- A number with a fraction, or one that is none or has no end. -/
  | real (written : String)
  | boolean (b : Bool)
  /-- A date, a time of day or both. -/
  | date (written : String)
  | list (items : List Node)
  | table (origin : Origin) (entries : List (String × Node))
  /-- The tables that headers of one name laid out, in order. -/
  | rows (tables : List (List (String × Node)))

/-- Names with their values. -/
abbrev Table := List (String × Node)

namespace Table

/-- Gives a name the value that `f` makes of its present one. -/
def change (t : Table) (name : String) (f : Option Node → Option Node) : Option Table :=
  match t.lookup name with
  | none => (f none).map fun v => t ++ [(name, v)]
  | some present => (f present).map fun v => t.map fun e => if e.1 = name then (name, v) else e

/-- Changes the last table of a list. -/
def changeLast (f : Table → Option Table) (tables : List Table) : Option (List Table) := do
  let last ← tables.getLast?
  return tables.dropLast ++ [← f last]

/-- Changes the table that a header's path leads to.  A list of tables stands for its last one. -/
def within (f : Table → Option Table) : List String → Table → Option Table
  | [], t => f t
  | name :: path, t => t.change name fun
    | none => (within f path []).map (.table .implied)
    | some (.table .inline _) => none
    | some (.table origin s) => (within f path s).map (.table origin)
    | some (.rows l) => (changeLast (within f path) l).map .rows
    | some _ => none

/-- Gives a value to a name that is new in the table which dotted names lead to.  The last table on
the way must be one of dotted names. -/
def assign (name : String) (v : Node) : List String → Table → Option Table
  | [], t => t.change name fun present => if present.isNone then some v else none
  | step :: path, t => t.change step fun
    | none => (assign name v path []).map (.table .dotted)
    | some (.table .dotted s) => (assign name v path s).map (.table .dotted)
    | some (.table .implied s) =>
      if path.isEmpty then none else (assign name v path s).map (.table .implied)
    | some (.rows l) =>
      if path.isEmpty then none else (changeLast (assign name v path) l).map .rows
    | some _ => none

/-- Lays out the table of a header.  A table that was only implied keeps what it has. -/
def layOut (name : String) (t : Table) : Option Table :=
  t.change name fun
    | none => some (.table .header [])
    | some (.table .implied s) => some (.table .header s)
    | some _ => none

/-- Adds an empty table to the list of tables of a header. -/
def addRow (name : String) (t : Table) : Option Table :=
  t.change name fun
    | none => some (.rows [[]])
    | some (.rows l) => some (.rows (l ++ [[]]))
    | some _ => none

/-- A name that was given a value is not given another. -/
theorem assign_eq_none (t : Table) (name : String) (v w : Node) (h : t.lookup name = some w) :
    t.assign name v [] = none := by
  simp [assign, change, h]

end Table

end MeteredRelay.Toml
