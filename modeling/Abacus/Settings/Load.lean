import Abacus.Settings.Environment
import Abacus.Settings.Extract
import Abacus.Toml.Document
import Abacus.Workspace

/-!
# Loading settings

The settings of a workspace are merged from three layers: the built-in defaults, a file and the
environment. A file that is not there gives no layer.

Without a given path the file belongs to the nearest settings directory above the current one. Where
there is no such directory, its relative path is looked up like a given one.
-/

namespace Abacus.Settings

/-- The directory that holds the settings of a workspace. -/
def folderName : String := ".sample-calc"

/-- The file in that directory. -/
def fileName : String := "settings.toml"

/-- Why settings cannot be loaded. -/
inductive LoadError where
  /-- The file is not TOML. -/
  | malformed
  | fault (f : Fault)

namespace LoadError

/-- The kind of the error. -/
def kind : LoadError → String
  | malformed => "Message"
  | fault f => f.kind.name

def message : LoadError → String
  | malformed => "Failed to load configuration: TOML parse error"
  | fault f => "Failed to load configuration: " ++ f.message

end LoadError

/-- The layer of the file to which a path leads, or no entries at all. -/
def fileLayer (w : Workspace) (p : Path) : Except LoadError Layer :=
  match w.search? p with
  | none => .ok (.table .builtin [])
  | some (q, content) =>
    match Toml.parse? content with
    | none => .error .malformed
    | some entries => .ok (.ofToml (.file (q.shownFrom w.here)) (.table entries))

/-- The three layers, each laid over the one before. -/
def layers (file : Layer) (environment : List (String × String)) : Layer :=
  ((Layer.ofSettings {}).merge file).merge (Environment.layer environment)

/-- Loads settings with a file of one's own choice. -/
def loadFrom (w : Workspace) (p : Path) : Except LoadError Settings := do
  let file ← fileLayer w p
  (Extractor.settings (layers file w.environment)).mapError .fault

/-- The settings file of the nearest directory that has a settings directory, whether or not that
file exists. -/
def workspaceFile? (w : Workspace) : Option Path :=
  (w.here.ancestors.find? fun above => w.tree.isDirectoryAt (above ++ [folderName])).map
    fun above => .ofLocation (above ++ [folderName, fileName])

/-- Loads the settings of a workspace. -/
def load (w : Workspace) : Except LoadError Settings :=
  loadFrom w ((workspaceFile? w).getD (Path.join ⟨folderName⟩ ⟨fileName⟩))

end Abacus.Settings
