import Abacus.Settings.Load

/-!
# Saving settings

Settings are saved as TOML; missing directories on the way to the file are made. A fresh settings
file holds the defaults and does not replace a file that is there, unless it is forced to.
-/

namespace Abacus.Settings

/-- Saves settings at a path, as far as that can be done. -/
def saveAttempt (s : Settings) (tree : FileTree) (here : Location) (p : Path) : FileTree.Attempt :=
  (tree.makeParent here p).next fun tree => tree.write here p s.toToml

/-- The file tree with settings saved at a path, if they could be saved. -/
def save (s : Settings) (tree : FileTree) (here : Location) (p : Path) :
    Except FileError FileTree :=
  (saveAttempt s tree here p).result

/-- Settings are saved where the directory of the file could be made. -/
theorem save_eq (s : Settings) (tree : FileTree) (here : Location) (p : Path) :
    s.save tree here p =
      tree.ensureParent here p >>= fun tree => tree.write here p s.toToml :=
  FileTree.Attempt.result_next _ _

/-- Why no fresh settings file is made. -/
inductive InitError where
  | alreadyExists (p : Path)
  | io (e : FileError)
  deriving DecidableEq, Repr

namespace InitError

def message : InitError → String
  | alreadyExists p =>
    "Configuration file already exists at " ++ p.text ++ ". Use --force to overwrite"
  | io e => "IO error: " ++ e.message

end InitError

/-- The settings file below a directory. -/
def fileBelow (folder : Path) : Path := (folder.join ⟨folderName⟩).join ⟨fileName⟩

/-- Makes a settings file with the defaults below a directory; gives the file tree afterwards and the
path of the file. Directories that were made on the way stay even if the file cannot be written. -/
def initAttempt (tree : FileTree) (here : Location) (folder : Path) (force : Bool) :
    FileTree × Except InitError Path :=
  let p := fileBelow folder
  if !force && tree.holds here p then (tree, .error (.alreadyExists p))
  else
    let a := saveAttempt {} tree here p
    match a.fault with
    | none => (a.tree, .ok p)
    | some e => (a.tree, .error (.io e))

/-- The path of a fresh settings file and the file tree with it, if it could be made. -/
def initFile (tree : FileTree) (here : Location) (folder : Path) (force : Bool) :
    Except InitError (Path × FileTree) :=
  match initAttempt tree here folder force with
  | (tree, .ok p) => .ok (p, tree)
  | (_, .error e) => .error e

end Abacus.Settings
