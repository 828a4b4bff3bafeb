import PixelApplet.Applet.Load

/-!
# Applets

A loaded applet does not change any more: it can be run, asked for the results of its schema's
handlers, and tested, any number of times.
-/

namespace PixelApplet

/-- A loaded applet. -/
structure Applet where
  context : Context
  /-- All paths that were opened, in ascending order. -/
  paths : List String
  /-- The modules of the loaded files. -/
  modules : List (String × ModuleRef)
  entryFile : String
  entryPoint : Value
  schema : Option LoadedSchema

/-- The outcome of a test function. -/
structure TestResult where
  file : String
  name : String
  /-- The failed assertions, and then the error that ended the test. -/
  failures : List String
  deriving DecidableEq

namespace TestResult

/-- Whether nothing failed. -/
def passed (result : TestResult) : Bool :=
  result.failures.isEmpty

/-- The file and the name of the test. -/
def title (result : TestResult) : String :=
  s!"{result.file}: {result.name}"

end TestResult

namespace Applet

/-- The name of an applet. -/
def id (applet : Applet) : String :=
  applet.context.id

/-- Loads the applet in a source. -/
def load (context : Context) (source : FileSource) : Eval (Except AppletFault Applet) := do
  match ← context.loadAll source with
  | .error fault => return .error fault
  | .ok loaded =>
    match loaded.entry with
    | none => return .error (.noEntryPoint context.id)
    | some (file, main) =>
      return .ok ⟨context, loaded.paths, loaded.modules, file, main, loaded.schema⟩

/-- The name of the file in which an applet of one script is kept. -/
def singleFile (id : String) : String :=
  if isScript id then id else id ++ ".star"

/-- Loads an applet that is made of one script. -/
def loadSingle (context : Context) (script : ByteArray) : Eval (Except AppletFault Applet) :=
  load context (.memory (MemoryFiles.empty.insert (singleFile context.id) script))

/-- The schema's document as text. -/
def schemaText (applet : Applet) : Option String :=
  applet.schema.map fun loaded => loaded.schema.toJson.compact

/-- The exported variables of a loaded file. -/
def exported? (applet : Applet) (file : String) : Eval (Option (Bindings Value)) :=
  Eval.readHeap fun h => (applet.modules.lookup file).map fun ref => (h.module ref).vars

/-- Calls a value on a thread of its own. -/
def call (applet : Applet) (callable : Value) (arguments : List Value) (token : TokenRef) :
    Eval (Except AppletFault Value) :=
  applet.context.invoke callable (.ofList arguments) token

/-- Whether a value is a script function with parameters. -/
def takesArguments : Value → Bool
  | .function _ f => !f.decl.params.isEmpty
  | _ => false

/-- The roots among values, counted from an index. -/
def rootsFrom : (index : Nat) → List Value → Except AppletFault (List RenderRoot)
  | _, [] => .ok []
  | index, .native _ (.root root) :: rest => do
    return root :: (← rootsFrom (index + 1) rest)
  | index, other :: _ => .error (.returnShape other.typeName (some index))

/-- The roots that an entry point returns: one root, or a list of roots. -/
def roots (h : Heap) (value : Value) : Except AppletFault (List RenderRoot) :=
  match value with
  | .native _ (.root root) => .ok [root]
  | other =>
    match other.sequence? h with
    | some items => rootsFrom 0 items
    | none => .error (.returnShape other.typeName none)

/-- A configuration in ascending order of its keys. -/
def sortedConfig (config : List (String × String)) : List (String × String) :=
  config.mergeSort fun a b => decide (a.1 ≤ b.1)

/-- Runs the entry point, which is given the configuration if it takes arguments. -/
def run (applet : Applet) (config : List (String × String)) (token : TokenRef) :
    Eval (Except AppletFault (List RenderRoot)) := do
  let arguments ←
    if takesArguments applet.entryPoint then do
      let pairs := (sortedConfig config).map fun (key, value) => (key, Value.str value)
      pure [← Eval.newDict (.ofBindings pairs)]
    else pure []
  match ← applet.call applet.entryPoint arguments token with
  | .error fault => return .error fault
  | .ok value => Eval.readHeap fun h => roots h value

/-- The text of a handler's result: a document for choices and schemas, or else the text itself. -/
def handlerResult (applet : Applet) (file name : String) (handler : SchemaHandler) (value : Value) :
    Eval (Except AppletFault String) := do
  match handler.kind with
  | .options => do
    let document ← Eval.readHeap fun h => SchemaOption.documentOf h value
    return (document.map Json.compact).mapError .schema
  | .schema =>
    match ← applet.exported? file with
    | none => return .error (.noHandler name)
    | some exported =>
      let schema := Schema.ofValue exported value
      return (schema.map fun schema => schema.toJson.compact).mapError .schema
  | .string =>
    match value with
    | .str text => return .ok text
    | _ => return .error (.handlerReturn handler.function.callableName)

/-- Calls a handler of the schema. -/
def callHandler (applet : Applet) (name parameter : String) (token : TokenRef) :
    Eval (Except AppletFault String) := do
  match applet.schema with
  | none => return .error (.noHandler name)
  | some loaded =>
    match loaded.schema.handlers.get? name with
    | none => return .error (.noHandler name)
    | some handler => do
      match ← applet.call handler.function [.str parameter] token with
      | .error fault => return .error (.handlerCall name fault)
      | .ok value => applet.handlerResult loaded.file name handler value

/-- What the names of tests begin with. -/
def testStart : List Char :=
  "test_".toList

/-- The tests that a file exports, in ascending order of their names. -/
def testsOf (vars : Bindings Value) : List (String × Value) :=
  (vars.filter fun (name, value) => testStart.isPrefixOf name.toList && value.isFunction).mergeSort
    fun a b => decide (a.1 ≤ b.1)

/-- Runs one test; failed assertions are collected and do not end it. -/
def runTest (applet : Applet) (file name : String) (test : Value) : Eval TestResult := do
  let token ← Eval.newToken
  let (outcome, failures) ← applet.context.invokeWith
    (Eval.changeThread (Assertions.collecting [])) test .empty token
  match outcome with
  | .ok _ => return ⟨file, name, failures⟩
  | .error fault => return ⟨file, name, failures ++ [fault.text]⟩

/-- All tests of all files, in ascending order of the files and then of the names. -/
def tests (applet : Applet) (h : Heap) : List (String × String × Value) :=
  (applet.modules.mergeSort fun a b => decide (a.1 ≤ b.1)).flatMap fun (file, ref) =>
    (testsOf (h.module ref).vars).map fun (name, test) => (file, name, test)

/-- Runs all tests; a test that fails stops no other. -/
def runTests (applet : Applet) : Eval (List TestResult) := do
  (← Eval.readHeap applet.tests).mapM fun (file, name, test) => applet.runTest file name test

end Applet

end PixelApplet
