import MeteredRelay.Toml.Table

/-!
# Entries of a configuration file

A section of a configuration file is a table.  Each of its entries is described once, by an
**`Entry`**, and both reading (**`Entry.readAll`**) and writing (**`Entry.writeAll`**) follow the
description.  What a file does not mention keeps its default, and names that no entry has are
ignored.

A section may also stand as a list of its values in the order of its entries; then an entry that
may be missing from a table may not be missing from the list unless it has a default.
-/

namespace MeteredRelay

/-- A part of a section: its name, and how it is written and read. -/
structure Entry (σ : Type) where
  name : String
  /-- Its value, if it is set. -/
  write : σ → Option Toml.Node
  /-- The section with a value for it, if that is a value of the right kind. -/
  read : Toml.Node → σ → Option σ
  /-- Whether it keeps its default where a list ends too early. -/
  hasDefault : Bool := true

namespace Toml.Node

/-- The characters of a text. -/
def text? : Node → Option String
  | .text s => some s
  | _ => none

/-- The value of a truth value. -/
def boolean? : Node → Option Bool
  | .boolean b => some b
  | _ => none

/-- The value of a number that is not below zero. -/
def natural? : Node → Option Nat
  | .integer (.ofNat n) => some n
  | _ => none

/-- The items of a list of texts. -/
def texts? : Node → Option (List String)
  | .list items => items.mapM text?
  | _ => none

end Toml.Node

namespace Entry

/-- A text. -/
def text (name : String) (get : σ → String) (set : σ → String → σ) : Entry σ where
  name := name
  write := fun s => some (.text (get s))
  read := fun v s => v.text?.map (set s)

/-- A text that may be missing. -/
def optionalText (name : String) (get : σ → Option String) (set : σ → String → σ) : Entry σ where
  name := name
  write := fun s => (get s).map .text
  read := fun v s => v.text?.map (set s)
  hasDefault := false

/-- Texts. -/
def texts (name : String) (get : σ → List String) (set : σ → List String → σ) : Entry σ where
  name := name
  write := fun s => some (.list ((get s).map .text))
  read := fun v s => v.texts?.map (set s)

/-- A number that is not below zero. -/
def natural (name : String) (get : σ → Nat) (set : σ → Nat → σ) : Entry σ where
  name := name
  write := fun s => some (.integer (get s))
  read := fun v s => v.natural?.map (set s)

/-- A truth value. -/
def flag (name : String) (get : σ → Bool) (set : σ → Bool → σ) : Entry σ where
  name := name
  write := fun s => some (.boolean (get s))
  read := fun v s => v.boolean?.map (set s)

/-- The entries that are set, in order. -/
def writeAll (entries : List (Entry σ)) (s : σ) : Toml.Table :=
  entries.filterMap fun e => (e.write s).map fun v => (e.name, v)

/-- The section with what a table says. -/
def readTable (t : Toml.Table) : List (Entry σ) → σ → Option σ
  | [], s => some s
  | e :: r, s => do
    readTable t r (← match t.lookup e.name with
      | some v => e.read v s
      | none => some s)

/-- The section with what a list says. -/
def readList : List Toml.Node → List (Entry σ) → σ → Option σ
  | _, [], s => some s
  | v :: l, e :: r, s => do readList l r (← e.read v s)
  | [], e :: r, s => if e.hasDefault then readList [] r s else none

/-- The section with what a value says.  A date says nothing. -/
def readAll (entries : List (Entry σ)) (v : Toml.Node) (s : σ) : Option σ :=
  match v with
  | .table _ t => readTable t entries s
  | .rows tables => readList (tables.map (.table .header)) entries s
  | .list items => readList items entries s
  | .date _ => some s
  | _ => none

end Entry

end MeteredRelay
