import PixelApplet.Descriptor.Reader

/-!
# Description files as trees

A description file is a tree of declarations, with statements between them that declare nothing.
The words that write a tree stand beside the declarations that it makes under their full names, and
beside the tree without everything that is passed over.
-/

namespace PixelApplet.Descriptor

/-! ## What is passed over -/

/-- Whether marks that belong together are closed in order, with so many open before the words and
none behind them. -/
def balanced (opening closing : Char) : (depth : Nat) → List Token → Bool
  | depth, [] => depth == 0
  | depth, token :: rest =>
    if token = .mark opening then balanced opening closing (depth + 1) rest
    else if token = .mark closing then
      decide (0 < depth) && balanced opening closing (depth - 1) rest
    else balanced opening closing depth rest

/-- Whether a semicolon stands only inside braces, of which so many are open before the words. -/
def enclosed : (depth : Nat) → List Token → Bool
  | _, [] => true
  | depth, token :: rest =>
    if token = .mark '\x7b' then enclosed (depth + 1) rest
    else if token = .mark '\x7d' then enclosed (depth - 1) rest
    else (decide (token = .mark ';' → 0 < depth)) && enclosed depth rest

/-- Something that declares nothing. -/
inductive Passed where
  /-- A semicolon alone. -/
  | empty
  /-- A statement, such as `option` or `reserved`, up to its semicolon. -/
  | statement (word : String) (body : List Token)
  /-- A part that extends a message, in braces. -/
  | extension (header body : List Token)

/-- The words that write what is passed over. -/
def Passed.tokens : Passed → List Token
  | empty => [.mark ';']
  | statement word body => .name word :: body ++ [.mark ';']
  | extension header body => .name "extend" :: header ++ .mark '\x7b' :: body ++ [.mark '\x7d']

/-- Where statements of some words are passed over, and extensions or not. -/
def Passed.Fits (words : List String) (extensions : Bool) : Passed → Prop
  | empty => True
  | statement word body =>
    word ∈ words ∧ balanced '\x7b' '\x7d' 0 body = true ∧ enclosed 0 body = true
  | extension header body =>
    extensions = true ∧ .mark '\x7b' ∉ header ∧ balanced '\x7b' '\x7d' 0 body = true

/-- A part of a block: something of the kind that belongs there, or something passed over. -/
inductive Part (α : Type) where
  | passed (passed : Passed)
  | given (given : α)

namespace Part

variable {α : Type}

/-- The words that write a part, given those of what belongs there. -/
def tokens (write : α → List Token) : Part α → List Token
  | passed p => p.tokens
  | given a => write a

/-- What belongs there, if the part is that. -/
def given? : Part α → Option α
  | passed _ => none
  | given a => some a

/-- The rules for a part, given those for what belongs there. -/
def Fits (words : List String) (rules : α → Prop) : Part α → Prop
  | passed p => p.Fits words false
  | given a => rules a

end Part

/-- What belongs in a block, in order. -/
def givens {α : Type} (parts : List (Part α)) : List α :=
  parts.filterMap Part.given?

/-- The words of options in brackets. -/
def bracketed : Option (List Token) → List Token
  | none => []
  | some body => .mark '[' :: body ++ [.mark ']']

/-- Options have their brackets closed in order. -/
def OptionsFit (options : Option (List Token)) : Prop :=
  ∀ body ∈ options, balanced '[' ']' 0 body = true

/-! ## Fields, values and methods -/

/-- The word before the type of a field. -/
inductive Label where
  | optional
  | required
  | repeated
  deriving DecidableEq

/-- The spelling of a label. -/
def Label.word : Label → String
  | optional => "optional"
  | required => "required"
  | repeated => "repeated"

/-- The type of a field. -/
inductive FieldType where
  | named (name : String)
  | map (key value : String)

namespace FieldType

/-- The words of a type. -/
def tokens : FieldType → List Token
  | named name => [.name name]
  | map key value =>
    [.name "map", .mark '<', .name key, .mark ',', .name value, .mark '>']

/-- The text by which a type is kept. -/
def typeName : FieldType → String
  | named name => name
  | map key value => s!"map<{key}, {value}>"

/-- The kind of the values of a type. -/
def kind : FieldType → FieldKind
  | named name => .ofTypeName name
  | map _ _ => .map

end FieldType

/-- A field as it is written. -/
structure FieldTree where
  label : Option Label
  type : FieldType
  name : String
  number : Int64
  options : Option (List Token)

/-- The words that begin something else where a field may stand. -/
def reservedWords : List String :=
  ["message", "enum", "oneof", "extend", "option", "reserved", "extensions", "optional", "required",
    "repeated"]

namespace FieldTree

/-- The words of a field. -/
def tokens (field : FieldTree) : List Token :=
  (field.label.toList.map fun label => .name label.word) ++ field.type.tokens
    ++ [.name field.name, .mark '=', .int field.number] ++ bracketed field.options ++ [.mark ';']

/-- What a field declares, in alternatives or not. -/
def declared (field : FieldTree) (oneof : Option String) : Field :=
  ⟨field.name, field.type.typeName, field.type.kind, field.number,
    decide (field.label = some .repeated), oneof⟩

/-- The rules for a field. -/
structure WellFormed (field : FieldTree) : Prop where
  positive : 0 < field.number
  type : ∀ name, field.type = .named name → name ∉ reservedWords
  options : OptionsFit field.options

end FieldTree

/-- A value of an enumeration as it is written. -/
structure ValueTree where
  name : String
  number : Int64
  options : Option (List Token)

namespace ValueTree

/-- The words of a value. -/
def tokens (value : ValueTree) : List Token :=
  [.name value.name, .mark '=', .int value.number] ++ bracketed value.options ++ [.mark ';']

/-- What a value declares. -/
def declared (value : ValueTree) : String × Int64 :=
  (value.name, value.number)

/-- The rules for a value. -/
structure WellFormed (value : ValueTree) : Prop where
  name : value.name ∉ reservedWords
  options : OptionsFit value.options

end ValueTree

/-- A method as it is written, with or without a body. -/
structure MethodTree extends Method where
  body : Option (List Passed)

/-- The words of a type in the signature of a method. -/
def signatureTokens (streaming : Bool) (typeName : String) : List Token :=
  .mark '(' :: (if streaming then [.name "stream"] else []) ++ [.name typeName, .mark ')']

/-- The words at the end of a method: a semicolon, or options in braces. -/
def endingTokens : Option (List Passed) → List Token
  | none => [.mark ';']
  | some parts => .mark '\x7b' :: parts.flatMap Passed.tokens ++ [.mark '\x7d']

namespace MethodTree

/-- The words of a method. -/
def tokens (method : MethodTree) : List Token :=
  .name "rpc" :: .name method.name :: signatureTokens method.clientStreaming method.input
    ++ .name "returns" :: signatureTokens method.serverStreaming method.output
    ++ endingTokens method.body

/-- The rules for a method. -/
def WellFormed (method : MethodTree) : Prop :=
  ∀ parts ∈ method.body, ∀ p ∈ parts, p.Fits ["option"] false

end MethodTree

/-! ## Messages and files -/

/-- A member of a message. -/
inductive MemberTree where
  | passed (passed : Passed)
  | field (field : FieldTree)
  | oneof (name : String) (alternatives : List (Part FieldTree))
  | enum (name : String) (values : List (Part ValueTree))
  | message (name : String) (members : List MemberTree)

/-- The words of a block behind a word and a name. -/
def blockTokens (word name : String) (inside : List Token) : List Token :=
  .name word :: .name name :: .mark '\x7b' :: inside ++ [.mark '\x7d']

/-- The words of an enumeration. -/
def enumTokens (name : String) (values : List (Part ValueTree)) : List Token :=
  blockTokens "enum" name (values.flatMap (Part.tokens ValueTree.tokens))

/-- What an enumeration declares. -/
def enumDeclared (scope name : String) (values : List (Part ValueTree)) : String × Declaration :=
  (qualified scope name, .enum ((givens values).map ValueTree.declared))

namespace MemberTree

mutual

/-- The words of a member. -/
def tokens : MemberTree → List Token
  | passed p => p.tokens
  | field f => f.tokens
  | oneof name alternatives =>
    blockTokens "oneof" name (alternatives.flatMap (Part.tokens FieldTree.tokens))
  | enum name values => enumTokens name values
  | message name members => blockTokens "message" name (allTokens members)

/-- The words of several members. -/
def allTokens : List MemberTree → List Token
  | [] => []
  | member :: rest => member.tokens ++ allTokens rest

end

/-- The fields that a member declares in its message. -/
def fields : MemberTree → List Field
  | field f => [f.declared none]
  | oneof name alternatives => (givens alternatives).map fun f => f.declared (some name)
  | passed _ | enum _ _ | message _ _ => []

mutual

/-- The declarations that a member makes beside its message. -/
def nested (scope : String) : MemberTree → Declarations
  | message name members =>
    (qualified scope name, .message (members.flatMap fields))
      :: allNested (qualified scope name) members
  | enum name values => [enumDeclared scope name values]
  | passed _ | field _ | oneof _ _ => []

/-- The declarations that several members make beside their message. -/
def allNested (scope : String) : List MemberTree → Declarations
  | [] => []
  | member :: rest => member.nested scope ++ allNested scope rest

end

mutual

/-- The rules for a member. -/
def WellFormed : MemberTree → Prop
  | passed p => p.Fits ["option", "reserved", "extensions"] true
  | field f => f.WellFormed
  | oneof _ alternatives => ∀ part ∈ alternatives, part.Fits ["option"] FieldTree.WellFormed
  | enum _ values => ∀ part ∈ values, part.Fits ["option", "reserved"] ValueTree.WellFormed
  | message _ members => AllWellFormed members

/-- The rules for several members. -/
def AllWellFormed : List MemberTree → Prop
  | [] => True
  | member :: rest => member.WellFormed ∧ AllWellFormed rest

end

end MemberTree

/-- A line of a file that declares nothing. -/
inductive Heading where
  | passed (passed : Passed)
  /-- The language of the file. -/
  | language (word text : String)

namespace Heading

/-- The words of a line that declares nothing. -/
def tokens : Heading → List Token
  | passed p => p.tokens
  | language word text => [.name word, .mark '=', .text text, .mark ';']

/-- The rules for a line that declares nothing. -/
def WellFormed : Heading → Prop
  | passed p => p.Fits ["import", "option"] true
  | language word _ => word ∈ ["syntax", "edition"]

end Heading

/-- A part of a file. -/
inductive FileItem where
  | heading (heading : Heading)
  | message (name : String) (members : List MemberTree)
  | enum (name : String) (values : List (Part ValueTree))
  | service (name : String) (methods : List (Part MethodTree))

namespace FileItem

/-- The words of a part of a file. -/
def tokens : FileItem → List Token
  | heading h => h.tokens
  | message name members => blockTokens "message" name (MemberTree.allTokens members)
  | enum name values => enumTokens name values
  | service name methods =>
    blockTokens "service" name (methods.flatMap (Part.tokens MethodTree.tokens))

/-- The declarations of a part of a file. -/
def declarations (package : String) : FileItem → Declarations
  | heading _ => []
  | message name members => (MemberTree.message name members).nested package
  | enum name values => [enumDeclared package name values]
  | service name methods =>
    [(qualified package name, .service ((givens methods).map MethodTree.toMethod))]

/-- The rules for a part of a file. -/
def WellFormed : FileItem → Prop
  | heading h => h.WellFormed
  | message _ members => MemberTree.AllWellFormed members
  | enum _ values => ∀ part ∈ values, part.Fits ["option", "reserved"] ValueTree.WellFormed
  | service _ methods => ∀ part ∈ methods, part.Fits ["option"] MethodTree.WellFormed

end FileItem

/-- A description file. -/
structure FileTree where
  headings : List Heading
  package : Option String
  items : List FileItem

namespace FileTree

/-- The words of a file. -/
def tokens (tree : FileTree) : List Token :=
  tree.headings.flatMap Heading.tokens
    ++ (tree.package.toList.flatMap fun name => [.name "package", .name name, .mark ';'])
    ++ tree.items.flatMap FileItem.tokens

/-- The package of a file, which may be nameless. -/
def packageName (tree : FileTree) : String :=
  tree.package.getD ""

/-- The declarations of a file. -/
def declarations (tree : FileTree) : Declarations :=
  tree.items.flatMap (FileItem.declarations tree.packageName)

/-- The rules for a file. -/
structure WellFormed (tree : FileTree) : Prop where
  headings : ∀ h ∈ tree.headings, h.WellFormed
  items : ∀ item ∈ tree.items, item.WellFormed

end FileTree

end PixelApplet.Descriptor
