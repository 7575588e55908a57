import MeteredRelay.Toml.Document

/-!
# Writing TOML

A value is written on one line, and a table under a header as one line for each of its names.
Names are quoted where they have to be.
-/

namespace MeteredRelay.Toml

/-- A name, in quotes if a bare one would not do. -/
def nameText (s : String) : String :=
  if s ≠ "" ∧ s.toList.all isBare then s else Quoted.ofText s

mutual

/-- A value. -/
def Node.render : Node → String
  | .text s => Quoted.ofText s
  | .integer n => s!"{n}"
  | .real w | .date w => w
  | .boolean b => s!"{b}"
  | .list items => "[" ++ ", ".intercalate (renderItems items) ++ "]"
  | .table _ entries => renderInline entries
  | .rows tables => "[" ++ ", ".intercalate (renderRows tables) ++ "]"

/-- The items of a list. -/
def renderItems : List Node → List String
  | [] => []
  | v :: r => v.render :: renderItems r

/-- Names with their values. -/
def renderEntries : List (String × Node) → List String
  | [] => []
  | (name, v) :: r => s!"{nameText name} = {v.render}" :: renderEntries r

/-- A table as a value. -/
def renderInline : List (String × Node) → String
  | [] => "\x7b\x7d"
  | entries => "\x7b " ++ ", ".intercalate (renderEntries entries) ++ " \x7d"

/-- Tables as values. -/
def renderRows : List (List (String × Node)) → List String
  | [] => []
  | t :: r => renderInline t :: renderRows r

end

/-- A table under its header. -/
def renderSection (name : String) (t : Table) : String :=
  s!"[{nameText name}]\n" ++ String.join ((renderEntries t).map (· ++ "\n"))

end MeteredRelay.Toml
