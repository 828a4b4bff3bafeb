import PixelApplet.Descriptor.Basic
import PixelApplet.Descriptor.Lexer

/-!
# Reading description files

The grammar of description files.  Options, reserved names and extensions are read and forgotten;
what remains are the declarations under their full names, a message before those nested in it.
-/

namespace PixelApplet.Descriptor

/-- The words that are still to be read, and the place of the last word of the file. -/
structure Source where
  rest : List Lexeme
  last : Place

/-- Reading a piece of a description file. -/
abbrev Reading (α : Type) := StateT Source (Except Misread) α

/-- Names with what they declare. -/
abbrev Declarations := List (String × Declaration)

namespace Reading

/-- The next word. -/
def next? : Reading (Option Token) := do
  return (← get).rest.head?.map Lexeme.token

/-- Goes on behind the next word. -/
def skip : Reading Unit :=
  modify fun s => { s with rest := s.rest.tail }

/-- The number of turns that reading the remaining words one by one takes. -/
def turns : Reading Nat := do
  return (← get).rest.length + 1

/-- Refuses the file at the next word, or at its last one. -/
def refuse {α : Type} (fault : SyntaxFault) : Reading α := do
  let s ← get
  throw ⟨(s.rest.head?.map Lexeme.place).getD s.last, fault⟩

/-- Refuses the next word, naming what was expected. -/
def refuseNext {α : Type} (expected : Option String) : Reading α := do
  match ← next? with
  | some token => refuse (.unexpected token.shown expected)
  | none => refuse (.unexpectedEnd none)

/-- The next word, taken. -/
def take : Reading Token := do
  match ← next? with
  | some token => do
    skip
    return token
  | none => refuse (.unexpectedEnd none)

/-- Takes a word that must come next. -/
def expect (token : Token) : Reading Unit := do
  match ← next? with
  | some found =>
    if found = token then skip else refuse (.unexpected found.shown (some token.shown))
  | none => refuse (.unexpectedEnd (some token.shown))

/-- Takes a name. -/
def name : Reading String := do
  match ← next? with
  | some (.name name) => do
    skip
    return name
  | _ => refuseNext (some "identifier")

/-- Goes behind the end of a statement, passing over braces that belong together. -/
def skipStatement : (turns depth : Nat) → Reading Unit
  | 0, _ => pure ()
  | turns + 1, depth => do
    match ← take with
    | .mark '\x7b' => skipStatement turns (depth + 1)
    | .mark '\x7d' => skipStatement turns (depth - 1)
    | .mark ';' => if depth = 0 then pure () else skipStatement turns depth
    | _ => skipStatement turns depth

/-- Goes behind the end of the present statement. -/
def statement : Reading Unit := do
  skipStatement (← turns) 0

/-- Goes behind the closing mark that belongs to the `depth`-th open one. -/
def skipNested (opening closing : Char) : (turns depth : Nat) → Reading Unit
  | 0, _ => pure ()
  | turns + 1, depth => do
    let token ← take
    if token = .mark opening then skipNested opening closing turns (depth + 1)
    else if token = .mark closing then
      if depth = 1 then pure () else skipNested opening closing turns (depth - 1)
    else skipNested opening closing turns depth

/-- Goes behind the next opening brace. -/
def skipToBrace : (turns : Nat) → Reading Unit
  | 0 => pure ()
  | turns + 1 => do
    if (← take) = .mark '\x7b' then pure () else skipToBrace turns

/-- Goes behind a part in braces and what stands before them. -/
def braces : Reading Unit := do
  skipToBrace (← turns)
  skipNested '\x7b' '\x7d' (← turns) 1

/-- Goes behind options in brackets, if there are any. -/
def options : Reading Unit := do
  if (← next?) = some (.mark '[') then
    skip
    skipNested '[' ']' (← turns) 1

end Reading

open Reading

/-- A name inside a scope. -/
def qualified (scope name : String) : String :=
  if scope.isEmpty then name else scope ++ "." ++ name

/-- The type of a field from its first word on. -/
def readType (first : String) : Reading (String × FieldKind) := do
  if first = "map" ∧ (← next?) = some (.mark '<') then
    skip
    let key ← name
    expect (.mark ',')
    let value ← name
    expect (.mark '>')
    return (s!"map<{key}, {value}>", .map)
  else return (first, .ofTypeName first)

/-- A field whose first word, a label or a type, was taken. -/
def readField (word : String) (oneof : Option String) : Reading Field := do
  let repeated := word = "repeated"
  let first ←
    if repeated ∨ word = "optional" ∨ word = "required" then name else pure word
  let (typeName, kind) ← readType first
  let fieldName ← name
  expect (.mark '=')
  match ← next? with
  | some (.int number) =>
    if number > 0 then
      skip
      options
      expect (.mark ';')
      return ⟨fieldName, typeName, kind, number, repeated, oneof⟩
    else refuseNext (some "field number")
  | _ => refuseNext (some "field number")

/-- The fields of alternatives up to their closing brace. -/
def readAlternatives (oneof : String) : (turns : Nat) → Reading (List Field)
  | 0 => pure []
  | turns + 1 => do
    match ← next? with
    | some (.mark '\x7d') => do
      skip
      return []
    | some (.mark ';') => do
      skip
      readAlternatives oneof turns
    | some (.name word) => do
      skip
      if word = "option" then
        statement
        readAlternatives oneof turns
      else
        let field ← readField word (some oneof)
        return field :: (← readAlternatives oneof turns)
    | _ => refuseNext none

/-- The values of an enumeration up to its closing brace. -/
def readValues : (turns : Nat) → Reading (List (String × Int64))
  | 0 => pure []
  | turns + 1 => do
    match ← next? with
    | some (.mark '\x7d') => do
      skip
      return []
    | some (.mark ';') => do
      skip
      readValues turns
    | some (.name word) => do
      skip
      if word = "option" ∨ word = "reserved" then
        statement
        readValues turns
      else
        expect (.mark '=')
        match ← next? with
        | some (.int number) => do
          skip
          options
          expect (.mark ';')
          return (word, number) :: (← readValues turns)
        | _ => refuseNext (some "number")
    | _ => refuseNext none

/-- An enumeration whose first word was taken. -/
def readEnum (scope : String) : Reading (String × Declaration) := do
  let name := qualified scope (← name)
  expect (.mark '\x7b')
  return (name, .enum (← readValues (← turns)))

/-- A type in the signature of a method, and whether it is streamed. -/
def readMethodType : Reading (Bool × String) := do
  expect (.mark '(')
  let first ← name
  let streaming := first = "stream" && (match ← next? with
    | some (.name _) => true
    | _ => false)
  let typeName ← if streaming then name else pure first
  expect (.mark ')')
  return (streaming, typeName)

/-- The options of a method up to the closing brace. -/
def readMethodOptions : (turns : Nat) → Reading Unit
  | 0 => pure ()
  | turns + 1 => do
    match ← next? with
    | some (.mark '\x7d') => skip
    | some (.mark ';') => do
      skip
      readMethodOptions turns
    | some (.name "option") => do
      skip
      statement
      readMethodOptions turns
    | _ => refuseNext none

/-- A method whose first word was taken. -/
def readMethod : Reading Method := do
  let methodName ← name
  let (clientStreaming, input) ← readMethodType
  expect (.name "returns")
  let (serverStreaming, output) ← readMethodType
  match ← next? with
  | some (.mark ';') => skip
  | some (.mark '\x7b') => do
    skip
    readMethodOptions (← turns)
  | _ => refuseNext (some "';' or '\x7b'")
  return ⟨methodName, input, clientStreaming, output, serverStreaming⟩

/-- The methods of a service up to its closing brace. -/
def readMethods : (turns : Nat) → Reading (List Method)
  | 0 => pure []
  | turns + 1 => do
    match ← next? with
    | some (.mark '\x7d') => do
      skip
      return []
    | some (.mark ';') => do
      skip
      readMethods turns
    | some (.name "option") => do
      skip
      statement
      readMethods turns
    | some (.name "rpc") => do
      skip
      let method ← readMethod
      return method :: (← readMethods turns)
    | _ => refuseNext none

/-- A service whose first word was taken. -/
def readService (scope : String) : Reading (String × Declaration) := do
  let name := qualified scope (← name)
  expect (.mark '\x7b')
  return (name, .service (← readMethods (← turns)))

mutual

/-- A message whose first word was taken, followed by the declarations nested in it. -/
def readMessage (scope : String) : (turns : Nat) → Reading Declarations
  | 0 => pure []
  | turns + 1 => do
    let name := qualified scope (← name)
    expect (.mark '\x7b')
    let (fields, nested) ← readMembers name turns
    return (name, .message fields) :: nested

/-- The members of a message up to its closing brace: fields and nested declarations. -/
def readMembers (scope : String) : (turns : Nat) → Reading (List Field × Declarations)
  | 0 => pure ([], [])
  | turns + 1 => do
    match ← next? with
    | some (.mark '\x7d') => do
      skip
      return ([], [])
    | some (.mark ';') => do
      skip
      readMembers scope turns
    | some (.name word) => do
      skip
      if word = "message" then
        let inner ← readMessage scope turns
        let (fields, nested) ← readMembers scope turns
        return (fields, inner ++ nested)
      else if word = "enum" then
        let inner ← readEnum scope
        let (fields, nested) ← readMembers scope turns
        return (fields, inner :: nested)
      else if word = "oneof" then
        let oneof ← name
        expect (.mark '\x7b')
        let alternatives ← readAlternatives oneof (← Reading.turns)
        let (fields, nested) ← readMembers scope turns
        return (alternatives ++ fields, nested)
      else if word = "extend" then
        braces
        readMembers scope turns
      else if word = "option" ∨ word = "reserved" ∨ word = "extensions" then
        statement
        readMembers scope turns
      else
        let field ← readField word none
        let (fields, nested) ← readMembers scope turns
        return (field :: fields, nested)
    | _ => refuseNext none

end

/-- A line that names the language of the file, whose first word was taken. -/
def readLanguage : Reading Unit := do
  expect (.mark '=')
  match ← next? with
  | some (.text _) => skip
  | _ => refuseNext (some "string")
  expect (.mark ';')

/-- The declarations of a file from here on, and its package; `package` is the one named so far. -/
def readFile : (turns : Nat) → (package : String) → Reading (String × Declarations)
  | 0, package => pure (package, [])
  | turns + 1, package => do
    match ← next? with
    | none => return (package, [])
    | some (.mark ';') => do
      skip
      readFile turns package
    | some (.name word) =>
      if word = "syntax" ∨ word = "edition" then do
        skip
        readLanguage
        readFile turns package
      else if word = "package" then do
        skip
        let package ← name
        expect (.mark ';')
        readFile turns package
      else if word = "import" ∨ word = "option" then do
        skip
        statement
        readFile turns package
      else if word = "message" then do
        skip
        let declared ← readMessage package (2 * (← Reading.turns))
        let (package, rest) ← readFile turns package
        return (package, declared ++ rest)
      else if word = "enum" then do
        skip
        let declared ← readEnum package
        let (package, rest) ← readFile turns package
        return (package, declared :: rest)
      else if word = "service" then do
        skip
        let declared ← readService package
        let (package, rest) ← readFile turns package
        return (package, declared :: rest)
      else if word = "extend" then do
        skip
        braces
        readFile turns package
      else refuseNext none
    | _ => refuseNext none

/-- The declarations of a description file. -/
def File.parse (path text : String) : Except Fault File :=
  let misread (m : Misread) : Fault := .badSyntax path m.place.line m.place.column m.fault
  match lex text with
  | .error m => .error (misread m)
  | .ok lexemes =>
    let last := (lexemes.getLast?.map Lexeme.place).getD .first
    match (readFile (lexemes.length + 1) "").run ⟨lexemes, last⟩ with
    | .error m => .error (misread m)
    | .ok ((package, declarations), _) => .ok ⟨path, package, declarations⟩

end PixelApplet.Descriptor
