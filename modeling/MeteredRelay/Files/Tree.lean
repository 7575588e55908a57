import MeteredRelay.Files.Path
import MeteredRelay.Table

/-!
# The tree of files

What a path finds depends on what there is: the files, with their texts, and the directories.  A
**`FileTree`** keeps these by the names that lead to them from the root, and the working directory.

A path is walked name by name, and everything but its last name has to be a directory.  On this rest
reading (**`FileTree.read`**), making a directory (**`FileTree.makeDirectory`**), making every
directory that a path leads through (**`FileTree.makeOuter`**) and writing (**`FileTree.write`**).

The main statement is that what was written is read again (**`read_of_write`**).
-/

namespace MeteredRelay

/-- The names that lead to something from the root. -/
abbrev Way := List String

/-- What there is at the end of a way. -/
inductive FileNode where
  | directory
  | file (text : String)
deriving DecidableEq

/-- What there is. -/
structure FileTree where
  /-- Everything but the root. -/
  nodes : Table Way FileNode
  /-- The working directory. -/
  here : Way

namespace FileTree

/-- A root, and the working directory that is to be made. -/
def empty (here : Way) : FileTree := ⟨.empty, here⟩

/-- What there is at the end of a way; the root is a directory. -/
def node? (t : FileTree) (way : Way) : Option FileNode :=
  if way.isEmpty then some .directory else t.nodes.get? way

/-- The tree with something put at the end of a way. -/
def insert (t : FileTree) (way : Way) (n : FileNode) : FileTree :=
  { t with nodes := t.nodes.insert way n }

/-- One name further.  There need not be anything there, but what the name is looked up in has to
be a directory. -/
def enter (t : FileTree) (way : Way) (name : String) : Except FileFault Way :=
  match t.node? way with
  | none => .error .notFound
  | some (.file _) => .error .notDirectory
  | some .directory =>
    if name = "." then .ok way
    else if name = ".." then .ok way.dropLast
    else if Path.maxNameSize < name.utf8ByteSize then .error .nameTooLong
    else .ok (way ++ [name])

/-- Where a path leads. -/
def walk (t : FileTree) (p : Path) : Except FileFault Way :=
  p.names.foldlM t.enter (if p.isAbsolute then [] else t.here)

/-- What a path finds. -/
def find (t : FileTree) (p : Path) : Except FileFault FileNode := do
  match t.node? (← t.walk p) with
  | none => .error .notFound
  | some .directory => .ok .directory
  | some (.file s) => if p.endsInSlash then .error .notDirectory else .ok (.file s)

/-- The text of a file. -/
def read (t : FileTree) (path : String) : Except FileFault String := do
  match ← t.find (← Path.ofText path) with
  | .directory => .error .isDirectory
  | .file s => .ok s

/-- The tree with another directory. -/
def makeDirectory (t : FileTree) (p : Path) : Except FileFault FileTree := do
  let way ← t.walk p
  match t.node? way with
  | some _ => .error .inTheWay
  | none => .ok (t.insert way .directory)

/-- The tree if there is a directory already, and the fault of making it if not. -/
def settle (t : FileTree) (p : Path) (e : FileFault) : Except FileFault FileTree :=
  if t.find p matches .ok .directory then .ok t else .error e

/-- Makes the directory of the names, last one first, and those that it lies in as far as there are
none. -/
def makeAll (t : FileTree) (isAbsolute : Bool) : List String → Except FileFault FileTree
  | [] => .ok t
  | name :: outer =>
    let p : Path := ⟨isAbsolute, (name :: outer).reverse, false⟩
    match t.makeDirectory p with
    | .ok t => .ok t
    | .error .notFound => do
      let t ← t.makeAll isAbsolute outer
      match t.makeDirectory p with
      | .ok t => .ok t
      | .error e => t.settle p e
    | .error e => t.settle p e

/-- Makes the directories that a path leads through. -/
def makeOuter (t : FileTree) (path : String) : Except FileFault FileTree := do
  let p ← Path.ofText path
  t.makeAll p.isAbsolute ((p.outer?.map Path.names).getD []).reverse

/-- The tree with a text in a file, which is made if there is none. -/
def write (t : FileTree) (path : String) (text : String) : Except FileFault FileTree := do
  let p ← Path.ofText path
  let way ← t.walk p
  if t.node? way = some .directory || p.endsInSlash then .error .isDirectory
  else .ok (t.insert way (.file text))

/-! ## What is read after a write -/

@[simp] theorem node?_nil (t : FileTree) : t.node? [] = some .directory := rfl

theorem node?_insert (t : FileTree) {way : Way} (n : FileNode) (v : Way) (h : way ≠ []) :
    (t.insert way n).node? v = if way = v then some n else t.node? v := by
  cases v with
  | nil => simp [h]
  | cons a r => simp [node?, insert, Table.get?_insert]

theorem enter_insert {t : FileTree} {way v w : Way} {name : String} (n : FileNode)
    (h : t.node? way ≠ some .directory) (hv : t.enter v name = .ok w) :
    (t.insert way n).enter v name = .ok w := by
  have hn : way ≠ [] := fun e => h (by rw [e]; rfl)
  unfold enter at hv ⊢
  split at hv
  · contradiction
  · contradiction
  · rename_i hd
    have hne : way ≠ v := fun e => h (e ▸ hd)
    rw [node?_insert t n v hn, if_neg hne, hd]
    exact hv

theorem foldlM_enter_insert {t : FileTree} {way : Way} (n : FileNode)
    (h : t.node? way ≠ some .directory) (names : List String) {v w : Way}
    (hv : names.foldlM t.enter v = .ok w) : names.foldlM (t.insert way n).enter v = .ok w := by
  induction names generalizing v with
  | nil => exact hv
  | cons name r ih =>
    rw [List.foldlM_cons] at hv ⊢
    cases hx : t.enter v name with
    | error e => rw [hx] at hv; contradiction
    | ok x =>
      rw [hx] at hv
      rw [enter_insert n h hx]
      exact ih hv

/-- What was written is read again. -/
theorem read_of_write {t u : FileTree} {path text : String} (h : t.write path text = .ok u) :
    u.read path = .ok text := by
  unfold write at h
  cases hp : Path.ofText path with
  | error e => rw [hp] at h; contradiction
  | ok p =>
    rw [hp] at h
    cases hw : t.walk p with
    | error e => simp [hw, bind, Except.bind] at h
    | ok way =>
      simp only [hw, bind, Except.bind] at h
      split at h
      · contradiction
      · rename_i hd
        simp only [Bool.or_eq_true, decide_eq_true_eq, not_or] at hd
        have hn : way ≠ [] := fun e => hd.1 (by rw [e]; rfl)
        injection h with h
        subst h
        have hx : (t.insert way (.file text)).walk p = .ok way :=
          foldlM_enter_insert (.file text) hd.1 p.names hw
        simp [read, find, hp, hx, bind, Except.bind, node?_insert _ _ _ hn, hd.2]

end FileTree

end MeteredRelay
