import PixelApplet.Applet.Context
import PixelApplet.Text.Utf8

/-!
# Loading applets

Every script in the root directory of an applet is executed, and every file that scripts load, each
file once.  The files that are being executed form a chain; a file that is loaded while it stands in
the chain is a circular dependency.  A file that is no script becomes a handle to its contents.
-/

namespace PixelApplet

/-- The ending of script names. -/
def scriptEnding : List Char :=
  ".star".toList

/-- Whether a path is that of a script. -/
def isScript (path : String) : Bool :=
  scriptEnding.isSuffixOf path.toList

/-- The name of the function that makes frames. -/
def entryPointName : String :=
  "main"

/-- The name of the function that makes the schema. -/
def schemaFunctionName : String :=
  "get_schema"

mutual

/-- The number of files in a tree. -/
def DiskNode.fileCount : DiskNode → Nat
  | .file _ => 1
  | .directory entries => DiskNode.entryFileCount entries

/-- The number of files under the entries of a directory. -/
def DiskNode.entryFileCount : List (String × DiskNode) → Nat
  | [] => 0
  | (_, node) :: rest => node.fileCount + DiskNode.entryFileCount rest

end

/-- At least the number of files in a source. -/
def FileSource.fileCount (source : FileSource) (disk : Disk) : Nat :=
  match source with
  | .memory files => files.files.length
  | .directory _ => disk.root.fileCount

/-- The exported function of a module with a name. -/
def Heap.exportedFunction? (h : Heap) (ref : ModuleRef) (name : String) : Option Value :=
  ((h.module ref).vars.get? name).filter Value.isFunction

namespace Context

/-- What loading has produced so far. -/
def progress : Eval LoadProgress :=
  Eval.read Machine.loading

/-- Notes what loading has produced. -/
def note (f : LoadProgress → LoadProgress) : Eval Unit :=
  modify fun m => { m with loading := f m.loading }

/-- Records the entry point of a freshly loaded script. -/
def recordEntry (path : String) (ref : ModuleRef) : Eval (Except AppletFault Unit) := do
  match ← Eval.readHeap fun h => h.exportedFunction? ref entryPointName with
  | none => return .ok ()
  | some main =>
    match (← progress).entry with
    | some (old, _) => return .error (.multipleEntryPoints path old)
    | none => do
      note fun progress => { progress with entry := some (path, main) }
      return .ok ()

/-- Records the schema of a freshly loaded script. -/
def recordSchema (context : Context) (path : String) (ref : ModuleRef) :
    Eval (Except AppletFault Unit) := do
  match ← Eval.readHeap fun h => h.exportedFunction? ref schemaFunctionName with
  | none => return .ok ()
  | some function =>
    match (← progress).schema with
    | some loaded => return .error (.multipleSchemaFunctions path loaded.file)
    | none => do
      match ← context.invoke function .empty (← Eval.newToken) with
      | .error fault => return .error (.schemaCall context.id fault.text)
      | .ok value => do
        let exported ← Eval.readHeap fun h => (h.module ref).vars
        match Schema.ofValue exported value with
        | .error fault => return .error (.schemaParse context.id fault)
        | .ok schema => do
          note fun progress => { progress with schema := some ⟨path, schema⟩ }
          return .ok ()

/-- Executes a script on a thread of its own. -/
def execute (context : Context) (load : Loader) (path : String) (contents : ByteArray) :
    Eval (Except AppletFault ModuleRef) := do
  let file := s!"{context.id}/{path}"
  let outcome ← Eval.onThread context.id (Eval.recover (do
    context.setUp
    note fun progress => progress.after (.began path)
    executeFile load file (Text.decodeLenient contents) []))
  match outcome with
  | .ok (.ok ref) => do
    note fun progress => progress.after (.finished path)
    return .ok ref
  | .ok (.error e) => return .error (.execution path s!"{file}:{e.text}")
  | .error (.panic message) => return .error (.loadPanic context.id message)
  | .error (.error e) =>
    match e.cause with
    | some (.sibling fault) => return .error fault
    | _ => return .error (.execution path e.text)

/-- Executes a script, and records what it exports. -/
def addScript (context : Context) (load : Loader) (path : String) (contents : ByteArray) :
    Eval (Except AppletFault ModuleRef) := do
  match ← context.execute load path contents with
  | .error fault => return .error fault
  | .ok ref => do
    note fun progress => progress.addModule path ref
    match ← recordEntry path ref with
    | .error fault => return .error fault
    | .ok () =>
      match ← context.recordSchema path ref with
      | .error fault => return .error fault
      | .ok () => return .ok ref

/-- Adds a file that is no script. -/
def addFile (source : FileSource) (path : String) : Eval ModuleRef := do
  let file ← Eval.newNative (.file path source)
  let ref ← Eval.bindingsModule path [("file", file)]
  note fun progress => progress.addModule path ref
  return ref

/-- What a load statement of a script does while its applet is being loaded, given how files of the
applet are loaded. -/
def loadBy (context : Context) (source : FileSource) (path : String)
    (ensure : String → Eval (Except AppletFault ModuleRef)) (module : String) :
    Eval (Except LoadFault ModuleRef) := do
  note fun progress => progress.after (.loads path module)
  if ← Eval.read fun m => source.contains m.disk (Path.clean module) then
    return (← ensure module).mapError .sibling
  else context.loadModule module

/-- The module of a file, executed now unless it was before.  The chain holds the files that are
being executed, outermost first; as they are different files, `depth` bounds their number. -/
def ensureLoaded (context : Context) (source : FileSource) :
    (depth : Nat) → (path : String) → (chain : List String) → Eval (Except AppletFault ModuleRef)
  | 0, path, chain => return .error (.circularDependency (chain ++ [path]))
  | depth + 1, path, chain => do
    let path := Path.clean path
    match (← progress).module? path with
    | some ref => return .ok ref
    | none =>
      let inside := chain ++ [path]
      if chain.contains path then return .error (.circularDependency inside)
      else
        note fun progress => progress.open_ path
        match ← Eval.read fun m => source.read m.disk path with
        | .error fault => return .error (.read path fault.text)
        | .ok contents =>
          if isScript path then
            let ensure := fun module => ensureLoaded context source depth module inside
            context.addScript (some (context.loadBy source path ensure)) path contents
          else return .ok (← addFile source path)

/-- Loads files one after the other until one fails. -/
def ensureAllLoaded (context : Context) (source : FileSource) (depth : Nat) :
    List String → Eval (Except AppletFault Unit)
  | [] => return .ok ()
  | path :: rest => do
    match ← context.ensureLoaded source depth path [] with
    | .error fault => return .error fault
    | .ok _ => ensureAllLoaded context source depth rest

/-- The scripts in the root directory, in ascending order. -/
def rootScripts (entries : List DirectoryEntry) : List String :=
  ((entries.filter fun entry => !entry.isDirectory && isScript entry.name).map
    DirectoryEntry.name).mergeSort fun a b => decide (a ≤ b)

/-- Loads all scripts of a source. -/
def loadAll (context : Context) (source : FileSource) : Eval (Except AppletFault LoadProgress) := do
  let disk ← Eval.read Machine.disk
  match source.readDirectory disk "." with
  | .error fault => return .error (.readRootDirectory fault.text)
  | .ok entries => do
    let outer ← progress
    note fun _ => .empty
    let outcome ← context.ensureAllLoaded source (source.fileCount disk + 2) (rootScripts entries)
    let loaded ← progress
    note fun _ => outer
    match outcome with
    | .error fault => return .error fault
    | .ok () => return .ok loaded

end Context

end PixelApplet
