import SymbolNav.Protocol.Start
import SymbolNav.Server.Message
import SymbolNav.Settings
import SymbolNav.Snapshot.Reader
import SymbolNav.Url.File

/-!
# Configuration

When a client starts the server, the settings near its workspace give the options and the snapshot
of the project. A snapshot that cannot be used leaves the server without a project, and the client
is told so. A project that the server was given beforehand is kept, and nothing is said about it.
-/

namespace SymbolNav

/-- Why a snapshot cannot be used. -/
inductive LoadError where
  | unreadable (path : Path) (reason : ReadError)
  | malformed (path : Path)
deriving DecidableEq, Repr

def LoadError.message : LoadError → String
  | .unreadable path reason =>
    "failed to read project snapshot " ++ path.text ++ ": " ++ reason.message
  | .malformed path => "malformed project snapshot " ++ path.text

/-- Read a project from its snapshot on disk. -/
def Project.load (disk : FileTree) (path : Path) : Except LoadError Project :=
  match disk.read path with
  | .error reason => .error (.unreadable path reason)
  | .ok text =>
    match Snapshot.parse? text with
    | none => .error (.malformed path)
    | some snapshot => .ok (.ofSnapshot disk snapshot)

/-- What a server answers with once it is started. -/
structure Configuration where
  options : Options
  project : Project
  /-- What the client is told about the project. -/
  status : Option Notice

namespace Configuration

/-- The project that the settings in a directory name. -/
def projectOf (disk : FileTree) (settings : Settings) (directory : Path) : Project × Notice :=
  match settings.snapshotPath? directory with
  | none => (.fallback, ⟨.info, "no project snapshot configured in " ++ Settings.fileName⟩)
  | some path =>
    match Project.load disk path with
    | .ok project => (project, ⟨.info, "loaded project snapshot " ++ path.text⟩)
    | .error e => (.fallback, ⟨.warning, e.message⟩)

/-- The configuration for a workspace. -/
def forRoot (disk : FileTree) (given : Option Project) (root : Option FileName) : Configuration :=
  let (settings, directory) := match root with
    | some root => Settings.discoverFrom disk root
    | none => ({}, ⟨"."⟩)
  match given with
  | some project => ⟨settings.options, project, none⟩
  | none =>
    let (project, notice) := projectOf disk settings directory
    ⟨settings.options, project, some notice⟩

end Configuration

/-- The directory of the workspace: that of the first folder, else the root. -/
def Protocol.StartParams.workspace? (p : Protocol.StartParams) : Option FileName :=
  (p.folders.head?.bind Url.fileName?).or (p.root.bind Url.fileName?)

end SymbolNav
