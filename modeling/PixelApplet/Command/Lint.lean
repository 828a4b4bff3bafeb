import PixelApplet.Command.Basic
import PixelApplet.Files.Source

/-!
# Linting

Scripts are checked, and mended on demand, by a linter that is a program of its own: it is given
arguments and answers with an exit code.  A pass that mends ends well even if issues remain that it
could not mend, so a pass that checks follows it.
-/

namespace PixelApplet

/-- What a linter is asked to do. -/
structure LintOptions where
  /-- Directories stand for the scripts beneath them. -/
  recursive : Bool
  fix : Bool
  verbose : Bool
  /-- The form of the linter's output; the form `off` is the linter's own. -/
  form : Option String
  deriving DecidableEq

/-- One run of a linter. -/
structure LintPass where
  mode : String
  lint : String
  deriving DecidableEq

namespace LintPass

/-- Reports issues. -/
def check : LintPass :=
  ⟨"check", "warn"⟩

/-- Mends issues. -/
def fix : LintPass :=
  ⟨"fix", "fix"⟩

/-- The arguments of a linter for a pass over files. -/
def arguments (pass : LintPass) (options : LintOptions) (files : List String) : List String :=
  let form := match options.form with
    | none | some "off" => []
    | some form => ["--format=" ++ form]
  ["--mode=" ++ pass.mode, "--lint=" ++ pass.lint] ++ form
    ++ (if options.verbose then ["-v"] else []) ++ files

end LintPass

/-- Whether a file is a script by its name. -/
def isScriptName (name : String) : Bool :=
  (Path.splitExtension name).2 = some "star"

mutual

/-- The paths of the scripts at or beneath a node with a name, in the order of the names on the way.
-/
def DiskNode.scripts (place name : String) : DiskNode → List String
  | .file _ => if isScriptName name then [place] else []
  | .directory entries => DiskNode.scriptsAmong place entries

/-- The paths of the scripts at or beneath the entries of a directory. -/
def DiskNode.scriptsAmong (place : String) : List (String × DiskNode) → List String
  | [] => []
  | (name, node) :: rest =>
    node.scripts (FileSource.joined place name) name ++ DiskNode.scriptsAmong place rest

end

namespace LintOptions

/-- The passes of a run, first to last. -/
def passes (options : LintOptions) : List LintPass :=
  if options.fix then [.fix, .check] else [.check]

/-- The files that a path stands for: itself, unless it is a directory. -/
def filesAt (options : LintOptions) (disk : Disk) (path : String) :
    Except CommandFault (List String) :=
  match disk.resolve path with
  | .ok (_, .directory entries) =>
    if options.recursive then .ok (DiskNode.scriptsAmong path entries)
    else .error (.lintedDirectory path)
  | _ => .ok [path]

/-- The files that paths stand for. -/
def files (options : LintOptions) (disk : Disk) (paths : List String) :
    Except CommandFault (List String) := do
  return (← paths.mapM (options.filesAt disk)).flatten

/-- The arguments of the linter, pass by pass. -/
def invocations (options : LintOptions) (disk : Disk) (paths : List String) :
    Except CommandFault (List (List String)) := do
  let files ← options.files disk paths
  return options.passes.map fun pass => pass.arguments options files

end LintOptions

/-- Runs a linter on one list of arguments after the other, as long as it ends with zero. -/
def runLinter {m : Type → Type} [Monad m] (linter : List String → m Int) :
    List (List String) → m (Except CommandFault Unit)
  | [] => return .ok ()
  | arguments :: rest => do
    let code ← linter arguments
    if code = 0 then runLinter linter rest else return .error (.linting code)

/-- Lints the files that paths stand for. -/
def lint {m : Type → Type} [Monad m] (linter : List String → m Int) (options : LintOptions)
    (disk : Disk) (paths : List String) : m (Except CommandFault Unit) :=
  match options.invocations disk paths with
  | .error fault => return .error fault
  | .ok invocations => runLinter linter invocations

end PixelApplet
