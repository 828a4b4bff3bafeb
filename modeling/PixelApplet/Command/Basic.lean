import PixelApplet.Applet.Basic
import PixelApplet.Applet.Fault
import PixelApplet.Files.Basic

/-!
# Commands

What can be done with an applet from the command line.  A command writes a report; one that fails
may have written a part of it before.
-/

/-! ## Faults

Why a command of the command line fails.  A fault is a chain: what was being done, and then the
causes, each behind the one that it explains.
-/

namespace PixelApplet

/-- The faults behind a fault, nearest first. -/
def AppletFault.causes : AppletFault → List String
  | schemaParse _ fault => [fault.text]
  | handlerCall _ fault => fault.text :: fault.causes
  | _ => []

/-- Why a command fails. -/
inductive CommandFault where
  /-- An entry of the configuration has no `=`. -/
  | configEntry (entry : String)
  | openingDirectory (path : String) (fault : AppletFault)
  | readingScript (path : String) (fault : FileFault)
  | openingScript (path : String) (fault : AppletFault)
  | running (id : String) (fault : AppletFault)
  | calling (handler id : String) (fault : AppletFault)
  | testsFailed (failed total : Nat)
  /-- A directory is to be linted without the files beneath it. -/
  | lintedDirectory (path : String)
  /-- The linter ended with an exit code other than zero. -/
  | linting (code : Int)

namespace CommandFault

/-- What was being done, and an applet's fault with its causes. -/
def during (doing : String) (fault : AppletFault) : List String :=
  doing :: fault.text :: fault.causes

/-- The chain of a fault, from what was being done to the innermost cause. -/
def chain : CommandFault → List String
  | configEntry entry => [s!"invalid config entry {Text.quote entry}, want key=value"]
  | openingDirectory path fault => during s!"loading applet from {path}" fault
  | readingScript path fault => [s!"reading {path}", fault.text]
  | openingScript path fault => during s!"loading {path}" fault
  | running id fault => during s!"running {id}" fault
  | calling handler id fault => during s!"calling {handler} in {id}" fault
  | testsFailed failed total => [s!"{failed} of {total} tests failed"]
  | lintedDirectory path => [s!"{path} is a directory, use --recursive to lint it"]
  | linting code => [s!"linting failed with exit code: {code}"]

/-- The chain on one line. -/
def text (fault : CommandFault) : String :=
  ": ".intercalate fault.chain

/-- A text that begins behind a label, and whose further lines are indented as far. -/
def behind (label text : String) : String :=
  let indent := '\n' :: List.replicate label.length ' '
  label ++ String.ofList (text.toList.flatMap fun c => if c = '\n' then indent else [c])

/-- The causes in a chain, numbered from `index`. -/
def numbered : (index : Nat) → (causes : List String) → List String
  | _, [] => []
  | index, cause :: rest => behind s!"    {index}: " cause :: numbered (index + 1) rest

/-- The chain with each cause on lines of its own; several causes are numbered. -/
def report (fault : CommandFault) : String :=
  match fault.chain with
  | [] => ""
  | [message] => message
  | [message, cause] => s!"{message}\n\nCaused by:\n" ++ behind "    " cause
  | message :: causes => s!"{message}\n\nCaused by:\n" ++ "\n".intercalate (numbered 0 causes)

end CommandFault

end PixelApplet

/-! ## Configurations

A configuration is given as entries `key=value`.  The first `=` ends the key, so a value may hold
more of them; of two entries with one key the later counts.
-/

namespace PixelApplet.Config

/-- The key and the value of an entry. -/
def splitEntry? (entry : String) : Option (String × String) :=
  (Text.cutFirst? ['='] entry.toList).map fun (key, value) =>
    (String.ofList key, String.ofList value)

/-- Puts a value under a key among others in ascending order. -/
def set (key value : String) : List (String × String) → List (String × String)
  | [] => [(key, value)]
  | (k, v) :: rest =>
    if key < k then (key, value) :: (k, v) :: rest
    else if key = k then (key, value) :: rest
    else (k, v) :: set key value rest

/-- Reads entries on top of a configuration. -/
def extend : (config : List (String × String)) → (entries : List String) →
    Except CommandFault (List (String × String))
  | config, [] => .ok config
  | config, entry :: rest =>
    match splitEntry? entry with
    | some (key, value) => extend (set key value config) rest
    | none => .error (.configEntry entry)

/-- The configuration that entries give, in ascending order of its keys. -/
def ofEntries (entries : List String) : Except CommandFault (List (String × String)) :=
  extend [] entries

end PixelApplet.Config

/-! ## Opening applets

An applet on the disk is a directory with scripts, or a single script.  It is named for the
directory in which it is really kept, or for its script without the extension.
-/

namespace PixelApplet.Applet

/-- The name of the applet at a path; `app` if there is none to be had. -/
def nameAt (disk : Disk) (path : String) : String :=
  let name := match disk.resolve path with
    | .ok (trail, .directory _) => trail.getLast?
    | _ => (Path.fileName? path).map fun name => (Path.splitExtension name).1
  name.getD "app"

/-- Loads the applet at a path. -/
def openAt (options : AppletOptions) (path : String) : Eval (Except CommandFault Applet) := do
  let disk ← Eval.read Machine.disk
  let context : Context := ⟨nameAt disk path, options⟩
  if disk.isDirectory path then
    return (← load context (.directory path)).mapError (.openingDirectory path)
  else
    match disk.read path with
    | .error fault => return .error (.readingScript path fault)
    | .ok script => return (← loadSingle context script).mapError (.openingScript path)

end PixelApplet.Applet

/-! ## Running commands -/

namespace PixelApplet

/-- What is to be done with an applet. -/
inductive AppletCommand where
  /-- Run the entry point and show how many roots it returns, or the roots as a document. -/
  | run (config : List String) (asDocument : Bool)
  | schema
  | call (handler parameter : String)
  | test
  /-- List the files that belong to the applet. -/
  | bundle
  deriving DecidableEq

/-- What a command has written, and why it failed, if it did. -/
structure Report where
  output : String
  fault : Option CommandFault

namespace Report

/-- A line of a report. -/
def line (text : String) : String :=
  text ++ "\n"

/-- The report of a command that succeeds. -/
def ok (output : String) : Report :=
  ⟨output, none⟩

/-- The report of a command that fails before it writes anything. -/
def failed (fault : CommandFault) : Report :=
  ⟨"", some fault⟩

/-- The report of a command that writes its result or fails. -/
def ofResult : Except CommandFault String → Report
  | .ok output => ok output
  | .error fault => failed fault

end Report

namespace Terminal

/-- A text in a colour, given by its code, and then in the usual colour again. -/
def coloured (code : Nat) (text : String) : String :=
  s!"\x1b[{code}m{text}\x1b[39m"

/-- A text in green. -/
def green : String → String :=
  coloured 32

/-- A text in red. -/
def red : String → String :=
  coloured 31

end Terminal

namespace Report

/-- The lines on the outcome of a test. -/
def showTest (result : TestResult) : String :=
  if result.passed then line (Terminal.green "PASS" ++ " " ++ result.title)
  else
    line (Terminal.red "FAIL" ++ " " ++ result.title)
      ++ String.join (result.failures.map fun failure => line ("    " ++ failure))

/-- The report on tests, which fails if one of them does. -/
def ofTests (results : List TestResult) : Report :=
  let failed := (results.filter fun result => !result.passed).length
  let output := String.join (results.map showTest)
    ++ line s!"{results.length - failed} passed, {failed} failed"
  ⟨output, if failed > 0 then some (.testsFailed failed results.length) else none⟩

end Report

namespace AppletCommand

open Report (line)

/-- The text for the roots that an applet returns. -/
def showRoots (applet : Applet) (asDocument : Bool) (roots : List RenderRoot) : String :=
  if asDocument then line (Json.array (roots.map RenderRoot.toJson)).pretty
  else line s!"{applet.id}: {roots.length} root(s)"

/-- Does what a command says with an applet, under a token. -/
def perform (applet : Applet) (token : TokenRef) : AppletCommand → Eval Report
  | run entries asDocument => do
    match Config.ofEntries entries with
    | .error fault => return .failed fault
    | .ok config =>
      let roots ← applet.run config token
      return .ofResult
        ((roots.map (showRoots applet asDocument)).mapError (.running applet.id))
  | schema =>
    match applet.schemaText with
    | some document => return .ok (line document)
    | none => return .ok (line s!"{applet.id} has no schema")
  | call handler parameter => do
    let result ← applet.callHandler handler parameter token
    return .ofResult ((result.map line).mapError (.calling handler applet.id))
  | test => return .ofTests (← applet.runTests)
  | bundle => return .ok (String.join (applet.paths.map line))

/-- Opens the applet at a path and does what a command says with it. -/
def execute (command : AppletCommand) (options : AppletOptions) (path : String) (token : TokenRef) :
    Eval Report := do
  match ← Applet.openAt options path with
  | .error fault => return .failed fault
  | .ok applet => command.perform applet token

end AppletCommand

end PixelApplet
