import PixelApplet.Command.Request

/-!
# The program

Reads what a request needs to see of the file system, answers the request, and shows what happened.
-/

namespace PixelApplet.Program

/-- The file or directory at a place, with everything beneath it.  Links to directories are left
out, so that no directory is met twice. -/
partial def readTree (place : String) : IO DiskNode := do
  let real ← IO.FS.realPath place
  if ← real.isDir then
    let mut node := DiskNode.directory []
    for entry in ← real.readDir do
      let isLink := (← IO.FS.realPath entry.path) != entry.path
      unless isLink && (← entry.path.isDir) do
        node := node.insert [entry.fileName] (← readTree entry.path.toString)
    return node
  else
    return .file (← IO.FS.readBinFile real)

/-- Puts what is at a path, if anything is, where the path really leads. -/
def mount (disk : Disk) (path : String) : IO Disk := do
  try
    let real ← IO.FS.realPath path
    return disk.put (Disk.names real.toString) (← readTree path)
  catch _ => return disk

/-- Adds the files directly in the working directory. -/
def mountHome (disk : Disk) : IO Disk := do
  let mut disk := disk
  for entry in ← (← IO.currentDir).readDir do
    unless ← entry.path.isDir do
      disk ← mount disk entry.fileName
  return disk

/-- The disk that a request sees: the files in the working directory, and the trees at its paths. -/
def diskOf (request : Request) : IO Disk := do
  let home := Disk.names (← IO.currentDir).toString
  request.paths.foldlM mount (← mountHome (.under home))

/-- Shows what happened while a request was answered. -/
def showEvent : Event → IO Unit
  | .printed thread message => IO.eprintln s!"[{thread}] {message}"
  | .standardOutput text => IO.print text
  | .standardError text => IO.eprint text
  | .noted _ => pure ()

/-- Shows why a request failed, and gives the exit code. -/
def showFault : Option CommandFault → IO UInt32
  | none => return 0
  | some fault => do
    IO.eprintln s!"Error: {fault.report}"
    return 1

/-- Answers a request on an applet. -/
def runCommand (disk : Disk) (path : String) (command : AppletCommand) : IO UInt32 := do
  let options := match command with
    | .run _ true => { AppletOptions.none with capturesPrint := true }
    | _ => .none
  let start := { Machine.initial disk with clock := (← IO.monoMsNow) / 1000 }
  match (Eval.newToken >>= command.execute options path) start with
  | .ok report machine => do
    machine.events.reverse.forM showEvent
    IO.print report.output
    showFault report.fault
  | .error _ _ => return 1

/-- Answers a request to lint: shows the arguments of the linter, one run a line. -/
def runLint (disk : Disk) (options : LintOptions) (paths : List String) : IO UInt32 := do
  let outcome ← lint (m := IO)
    (fun arguments => do IO.println (" ".intercalate arguments); return 0) options disk paths
  match outcome with
  | .ok _ => return 0
  | .error fault => showFault (some fault)

end PixelApplet.Program

/-- The command line. -/
def main (arguments : List String) : IO UInt32 := do
  match PixelApplet.Request.ofArguments arguments with
  | .error message => do
    IO.eprintln message
    return 2
  | .ok request => do
    let disk ← PixelApplet.Program.diskOf request
    match request with
    | .onApplet path command => PixelApplet.Program.runCommand disk path command
    | .lint options paths => PixelApplet.Program.runLint disk options paths
