import Abacus.FileTree.Basic

/-!
# The workspace

All that a run can see of the world: the file tree, the directory it runs in, and the variables of
the environment.
-/

namespace Abacus

/-- Where a program runs: the files it sees, the directory it is in, and its environment. -/
structure Workspace where
  tree : FileTree
  /-- The current directory. -/
  here : Location
  /-- The variables of the environment, in their order. -/
  environment : List (String × String) := []

namespace Workspace

/-- The value of a variable. -/
def valueOf? (w : Workspace) (name : String) : Option String := w.environment.lookup name

/-- The current directory as a path. -/
def herePath (w : Workspace) : Path := .ofLocation w.here

/-- A path leads to something. -/
def holds (w : Workspace) (p : Path) : Bool := w.tree.holds w.here p

/-- A file by its path: an absolute path is followed as it is; any other is looked up in the current
directory and then in each directory above it. Gives the absolute path and the content. -/
def search? (w : Workspace) (p : Path) : Option (Path × String) :=
  if p.isAbsolute then (w.tree.read? w.here p).map fun content => (p, content)
  else
    w.here.ancestors.findSome? fun above =>
      let q := (Path.ofLocation above).join p
      (w.tree.read? w.here q).map fun content => (q, content)

end Workspace

end Abacus
