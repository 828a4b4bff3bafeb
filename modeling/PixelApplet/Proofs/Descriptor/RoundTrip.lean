import PixelApplet.Proofs.Descriptor.DeclarationReading
import PixelApplet.Proofs.Descriptor.Spelling
import PixelApplet.Proofs.Json.Reading
import PixelApplet.Proofs.Number.Numerals

/-!
# Description files are read back

The declarations of a tree are read from every text that spells its words, and so in particular
from the text that writes the tree without anything that is passed over.
-/

namespace PixelApplet.Descriptor

/-! ## Trees without what is passed over -/

/-- A field without options. -/
def FieldTree.bare (field : FieldTree) : FieldTree :=
  { field with options := none }

/-- A value without options. -/
def ValueTree.bare (value : ValueTree) : ValueTree :=
  { value with options := none }

/-- A method without options. -/
def MethodTree.bare (method : MethodTree) : MethodTree :=
  { method with body := none }

/-- The parts of a block that belong there, each without what is passed over in it. -/
def bareParts {α : Type} (bare : α → α) (parts : List (Part α)) : List (Part α) :=
  (givens parts).map fun a => .given (bare a)

namespace MemberTree

mutual

/-- A member without what is passed over, if it is not passed over itself. -/
def bare : MemberTree → List MemberTree
  | passed _ => []
  | field f => [field f.bare]
  | oneof name alternatives => [oneof name (bareParts FieldTree.bare alternatives)]
  | enum name values => [enum name (bareParts ValueTree.bare values)]
  | message name members => [message name (allBare members)]

/-- Members without what is passed over. -/
def allBare : List MemberTree → List MemberTree
  | [] => []
  | member :: rest => member.bare ++ allBare rest

end

end MemberTree

/-- A part of a file without what is passed over, if it is not passed over itself. -/
def FileItem.bare : FileItem → List FileItem
  | heading _ => []
  | message name members => [message name (MemberTree.allBare members)]
  | enum name values => [enum name (bareParts ValueTree.bare values)]
  | service name methods => [service name (bareParts MethodTree.bare methods)]

/-- A file without what is passed over. -/
def FileTree.bare (tree : FileTree) : FileTree :=
  ⟨[], tree.package, tree.items.flatMap FileItem.bare⟩

section Bare

theorem givens_bareParts {α : Type} (bare : α → α) (parts : List (Part α)) :
    givens (bareParts bare parts) = (givens parts).map bare := by
  rw [bareParts, givens, List.filterMap_map]
  exact congrFun List.filterMap_eq_map (givens parts)

theorem mem_givens {α : Type} {parts : List (Part α)} {a : α} (member : a ∈ givens parts) :
    .given a ∈ parts := by
  obtain ⟨part, member, is⟩ := List.mem_filterMap.mp member
  cases part with
  | passed p => cases is
  | given b => exact Option.some.inj is ▸ member

theorem bareParts_fit {α : Type} {bare : α → α} {rules : α → Prop} {words : List String}
    {parts : List (Part α)} (fit : ∀ part ∈ parts, part.Fits words rules)
    (keeps : ∀ a, rules a → rules (bare a)) :
    ∀ part ∈ bareParts bare parts, part.Fits words rules := by
  intro part member
  obtain ⟨a, given, rfl⟩ := List.mem_map.mp member
  exact keeps a (fit _ (mem_givens given))

theorem FieldTree.WellFormed.bare {field : FieldTree} (wellFormed : field.WellFormed) :
    field.bare.WellFormed :=
  ⟨wellFormed.positive, wellFormed.type, nofun⟩

theorem ValueTree.WellFormed.bare {value : ValueTree} (wellFormed : value.WellFormed) :
    value.bare.WellFormed :=
  ⟨wellFormed.name, nofun⟩

theorem MethodTree.WellFormed.bare {method : MethodTree} (_ : method.WellFormed) :
    method.bare.WellFormed :=
  nofun

theorem enumDeclared_bare (scope name : String) (values : List (Part ValueTree)) :
    enumDeclared scope name (bareParts ValueTree.bare values) = enumDeclared scope name values := by
  rw [enumDeclared, givens_bareParts, List.map_map]
  rfl

namespace MemberTree

theorem fields_bare (member : MemberTree) : member.bare.flatMap fields = member.fields := by
  cases member with
  | passed p => rfl
  | field f => rfl
  | oneof name alternatives =>
    rw [bare, List.flatMap_singleton, fields, givens_bareParts, List.map_map]
    rfl
  | enum name values => rfl
  | message name members => rw [bare]; rfl

theorem fields_allBare (members : List MemberTree) :
    (allBare members).flatMap fields = members.flatMap fields := by
  induction members with
  | nil => rfl
  | cons member members ih =>
    rw [allBare, List.flatMap_append, fields_bare, ih, List.flatMap_cons]

theorem allNested_append (scope : String) (first second : List MemberTree) :
    allNested scope (first ++ second) = allNested scope first ++ allNested scope second := by
  induction first with
  | nil => rfl
  | cons member first ih =>
    rw [List.cons_append, allNested, allNested, ih, List.append_assoc]

mutual

theorem nested_bare (scope : String) :
    ∀ member : MemberTree, allNested scope member.bare = member.nested scope
  | passed _ => rfl
  | field _ => rfl
  | oneof _ _ => rfl
  | enum name values => by
    rw [bare, allNested, allNested, nested, nested, List.append_nil, enumDeclared_bare]
  | message name members => by
    rw [bare, allNested, allNested, nested, nested, List.append_nil, fields_allBare,
      nested_allBare]

theorem nested_allBare (scope : String) :
    ∀ members : List MemberTree, allNested scope (allBare members) = allNested scope members
  | [] => rfl
  | member :: members => by
    rw [allBare, allNested_append, nested_bare, nested_allBare, allNested]

end

theorem allWellFormed_append {first second : List MemberTree} (left : AllWellFormed first)
    (right : AllWellFormed second) : AllWellFormed (first ++ second) := by
  induction first with
  | nil => exact right
  | cons member first ih =>
    rw [AllWellFormed] at left
    rw [List.cons_append, AllWellFormed]
    exact ⟨left.1, ih left.2⟩

mutual

theorem wellFormed_bare : ∀ member : MemberTree, member.WellFormed → AllWellFormed member.bare
  | passed _, _ => by rw [bare, AllWellFormed]; trivial
  | field f, wellFormed => by
    rw [WellFormed] at wellFormed
    rw [bare, AllWellFormed, WellFormed, AllWellFormed]
    exact ⟨wellFormed.bare, trivial⟩
  | oneof _ _, fit => by
    rw [WellFormed] at fit
    rw [bare, AllWellFormed, WellFormed, AllWellFormed]
    exact ⟨bareParts_fit fit fun _ => FieldTree.WellFormed.bare, trivial⟩
  | enum _ _, fit => by
    rw [WellFormed] at fit
    rw [bare, AllWellFormed, WellFormed, AllWellFormed]
    exact ⟨bareParts_fit fit fun _ => ValueTree.WellFormed.bare, trivial⟩
  | message _ members, fit => by
    rw [WellFormed] at fit
    rw [bare, AllWellFormed, WellFormed, AllWellFormed]
    exact ⟨allWellFormed_bare members fit, trivial⟩

theorem allWellFormed_bare :
    ∀ members : List MemberTree, AllWellFormed members → AllWellFormed (allBare members)
  | [], _ => by rw [allBare, AllWellFormed]; trivial
  | member :: members, fit => by
    rw [AllWellFormed] at fit
    rw [allBare]
    exact allWellFormed_append (wellFormed_bare member fit.1) (allWellFormed_bare members fit.2)

end

end MemberTree

namespace FileItem

theorem declarations_bare (package : String) (item : FileItem) :
    item.bare.flatMap (declarations package) = item.declarations package := by
  cases item with
  | heading h => rfl
  | message name members =>
    rw [bare, List.flatMap_singleton, declarations, declarations, MemberTree.nested,
      MemberTree.nested, MemberTree.fields_allBare, MemberTree.nested_allBare]
  | enum name values =>
    rw [bare, List.flatMap_singleton, declarations, declarations, enumDeclared_bare]
  | service name methods =>
    rw [bare, List.flatMap_singleton, declarations, declarations, givens_bareParts, List.map_map]
    rfl

theorem wellFormed_bare {item : FileItem} (wellFormed : item.WellFormed) :
    ∀ bare ∈ item.bare, bare.WellFormed := by
  cases item with
  | heading h => nofun
  | message name members =>
    exact List.forall_mem_singleton.mpr (MemberTree.allWellFormed_bare members wellFormed)
  | enum name values =>
    exact List.forall_mem_singleton.mpr
      (bareParts_fit wellFormed fun _ => ValueTree.WellFormed.bare)
  | service name methods =>
    exact List.forall_mem_singleton.mpr
      (bareParts_fit wellFormed fun _ => MethodTree.WellFormed.bare)

end FileItem

namespace FileTree

/-- What is passed over declares nothing. -/
theorem declarations_bare (tree : FileTree) : tree.bare.declarations = tree.declarations := by
  rw [declarations, declarations, bare, List.flatMap_assoc]
  congr 1
  funext item
  exact FileItem.declarations_bare _ item

theorem WellFormed.bare {tree : FileTree} (wellFormed : tree.WellFormed) :
    tree.bare.WellFormed where
  headings := nofun
  items := by
    intro item member
    obtain ⟨whole, inTree, member⟩ := List.mem_flatMap.mp member
    exact FileItem.wellFormed_bare (wellFormed.items whole inTree) item member

end FileTree

end Bare

/-! ## Writing -/

namespace Token

/-- Whether a word can be written out as it is; a tree without options has no other words. -/
def isWritten : Token → Bool
  | name word =>
    match word.toList with
    | c :: others => beginsName c && others.all continuesName
    | [] => false
  | int n => n != Int64.minValue
  | mark c => isMark c
  | number _ | text _ => false

/-- A word written out. -/
def written : Token → List Char
  | name word => word.toList
  | int n => (Word.text n).toList
  | mark c => [c]
  | number _ | text _ => []

/-- What stands behind a word that is written out: a line ends behind statements and braces. -/
def separator : Token → Char
  | mark ';' | mark '\x7b' | mark '\x7d' => '\n'
  | _ => ' '

end Token

/-- Words written out one after the other. -/
def writtenAll (tokens : List Token) : List Char :=
  tokens.flatMap fun token => token.written ++ [token.separator]

/-- The text of a file. -/
def FileTree.text (tree : FileTree) : String :=
  String.ofList (writtenAll tree.tokens)

section Writing

variable {tokens : List Token} {text : List Char}

theorem separator_eq (token : Token) : token.separator = '\n' ∨ token.separator = ' ' := by
  unfold Token.separator
  split <;> simp

theorem spells_separator (token : Token) (spells : Spells tokens text) :
    Spells tokens (token.separator :: text) := by
  refine .blank ?_ spells
  obtain same | same := separator_eq token <;> rw [same] <;> rfl

/-- The digits of a natural word are read as that word: they begin with no zero, unless it is zero.
-/
theorem wordOfDigits?_toDigits {n : Int64} (natural : 0 ≤ n) :
    wordOfDigits? (Nat.toDigits 10 n.toInt.toNat) = some n := by
  have noZero : ∀ d rest, Nat.toDigits 10 n.toInt.toNat ≠ '0' :: d :: rest := by
    intro d rest digits
    rw [Json.Reads.toDigits_cons_zero digits] at digits
    cases digits
  unfold wordOfDigits?
  split
  · exact absurd ‹_› (noZero _ _)
  · exact absurd ‹_› (noZero _ _)
  · exact absurd ‹_› (noZero _ _)
  · exact Lexeme.word?_toDigits natural

theorem continuesNumber_of_digit {c : Char} (digit : Text.isDecimalDigit c = true) :
    continuesNumber c = true := by
  rw [continuesNumber, digit, Bool.or_true, Bool.true_or]

theorem ofNumber_digits {n : Int64} {first : Char} {others : List Char} (noMinus : first ≠ '-')
    (read : wordOfDigits? (first :: others) = some n) :
    Token.ofNumber (first :: others) = .int n := by
  unfold Token.ofNumber
  split
  rename_i negative digits parts
  split at parts
  · rename_i same
    cases same
    exact absurd rfl noMinus
  · cases parts
    simp only [read, Bool.false_eq_true, if_false]

theorem ofNumber_minus {n : Int64} {digits : List Char} (read : wordOfDigits? digits = some n) :
    Token.ofNumber ('-' :: digits) = .int (-n) := by
  simp only [Token.ofNumber, read, if_true]

/-- A number is written as one word, which is read as the number. -/
theorem spells_int {n : Int64} (notLeast : n ≠ Int64.minValue)
    (ends : ∀ d ∈ text.head?, continuesNumber d = false) (spells : Spells tokens text) :
    Spells (.int n :: tokens) ((Word.text n).toList ++ text) := by
  rw [Word.toList_text]
  by_cases natural : 0 ≤ n
  · rw [if_pos natural]
    have read := wordOfDigits?_toDigits natural
    have all := @Lexeme.isDecimalDigit_of_mem_toDigits n.toInt.toNat
    cases digits : Nat.toDigits 10 n.toInt.toNat with
    | nil => exact absurd digits Nat.toDigits_ne_nil
    | cons first others =>
      rw [digits] at read all
      have digit := all first List.mem_cons_self
      have noMinus : first ≠ '-' := by
        rintro rfl
        cases digit
      rw [← ofNumber_digits noMinus read]
      exact .number (by rw [beginsNumber, digit, Bool.true_or])
        (fun d member => continuesNumber_of_digit (all d (List.mem_cons_of_mem _ member))) ends
        spells
  · have opposite := Word.toInt_neg notLeast
    rw [Int64.le_iff_toInt_le, Int64.toInt_zero] at natural
    have positive : 0 ≤ -n := by
      rw [Int64.le_iff_toInt_le, Int64.toInt_zero, opposite]
      omega
    have read := wordOfDigits?_toDigits positive
    have all := @Lexeme.isDecimalDigit_of_mem_toDigits (-n).toInt.toNat
    have same := ofNumber_minus read
    rw [Int64.neg_neg] at same
    rw [if_neg (by rwa [Int64.le_iff_toInt_le, Int64.toInt_zero]), ← opposite, ← same]
    refine .number ?_ (fun d member => continuesNumber_of_digit (all d member)) ends spells
    cases digits : Nat.toDigits 10 (-n).toInt.toNat with
    | nil => exact absurd digits Nat.toDigits_ne_nil
    | cons first others =>
      have digit := all first (by rw [digits]; exact List.mem_cons_self)
      simp [beginsNumber, digit]

/-- Words that are written out one after the other are spelled by their text. -/
theorem spells_writtenAll (written : ∀ token ∈ tokens, token.isWritten = true) :
    Spells tokens (writtenAll tokens) := by
  induction tokens with
  | nil => exact .nil
  | cons token tokens ih =>
    rw [List.forall_mem_cons] at written
    have others := spells_separator token (ih written.2)
    rw [writtenAll, List.flatMap_cons, List.append_assoc, List.singleton_append]
    have ends (class_ : Char → Bool) (stops : class_ ' ' = false ∧ class_ '\n' = false) :
        ∀ d ∈ (token.separator :: writtenAll tokens).head?, class_ d = false := by
      rintro d ⟨⟩
      obtain same | same := separator_eq token <;> rw [same]
      · exact stops.2
      · exact stops.1
    cases token with
    | name word =>
      have named := written.1
      rw [Token.isWritten] at named
      cases spelled : word.toList with
      | nil =>
        rw [spelled] at named
        cases named
      | cons first rest =>
        simp only [spelled, Bool.and_eq_true, List.all_eq_true] at named
        rw [Token.written, spelled, ← String.ofList_toList (s := word), spelled]
        exact .name named.1 named.2 (ends continuesName (by decide)) others
    | int n =>
      have notLeast : n ≠ Int64.minValue := by simpa [Token.isWritten] using written.1
      exact spells_int notLeast (ends continuesNumber (by decide)) others
    | mark c =>
      have noDigit : Text.isDecimalDigit c = false := of_decide_eq_true
        (of_isMark (fun c => decide (Text.isDecimalDigit c = false)) (by decide) written.1)
      have next := ends Text.isDecimalDigit (by decide) _ rfl
      refine .mark written.1 ?_ others
      change beginsNumber c ((Token.mark c).separator :: writtenAll tokens) = false
      rw [beginsNumber, noDigit, Bool.false_or, List.head?_cons, Option.any_some, next, Bool.and_false]
    | number digits => cases written.1
    | text contents => cases written.1

end Writing

/-! ## Files -/

/-- The declarations of a tree are read from every text that spells its words. -/
theorem parse_of_spells {tree : FileTree} (wellFormed : tree.WellFormed) (path : String)
    {text : String} (spells : Spells tree.tokens text.toList) :
    File.parse path text = .ok ⟨path, tree.packageName, tree.declarations⟩ := by
  obtain ⟨lexemes, cut, words⟩ := lex_of_spells spells
  have enough : tree.tokens.length < lexemes.length + 1 := by
    rw [← words, List.length_map]
    omega
  obtain ⟨s, ran, _⟩ := reads_file wellFormed enough
    ⟨lexemes, (lexemes.getLast?.map Lexeme.place).getD .first⟩ words
  unfold File.parse
  rw [cut]
  dsimp only [StateT.run]
  rw [ran]

/-- Reading inverts writing: from the text that writes a tree without anything that is passed over,
and from every text that spells the tree with comments, options, reserved names, extensions and
whatever else is passed over, the same declarations are read, in order and under their full names.
-/
theorem declarations_are_read_back (tree : FileTree) (wellFormed : tree.WellFormed)
    (written : ∀ token ∈ tree.bare.tokens, token.isWritten = true) (path : String) :
    File.parse path tree.bare.text = .ok ⟨path, tree.packageName, tree.declarations⟩
      ∧ ∀ text : String, Spells tree.tokens text.toList →
        File.parse path text = .ok ⟨path, tree.packageName, tree.declarations⟩ := by
  refine ⟨?_, fun text spells => parse_of_spells wellFormed path spells⟩
  rw [← tree.declarations_bare]
  refine parse_of_spells wellFormed.bare path ?_
  rw [FileTree.text, String.toList_ofList]
  exact spells_writtenAll written

/-- A file with alternatives, a map, nested declarations, a streaming method, and parts between them
that are passed over. -/
def sampleTree : FileTree where
  headings := [.passed (.statement "option" [.name "fast", .mark '=', .name "true"])]
  package := some "demo"
  items :=
    [.message "Query"
      [.passed (.statement "reserved" [.int 9, .name "to", .int 11]),
        .oneof "q" [.given ⟨none, .named "string", "text", 1, none⟩, .passed .empty],
        .field ⟨some .repeated, .named "int32", "ids", 2,
          some [.name "packed", .mark '=', .mark '[', .mark ']']⟩,
        .field ⟨none, .map "string" "float", "counts", 3, none⟩,
        .message "Inner" [.enum "Kind" [.given ⟨"OFF", -1, none⟩, .given ⟨"ON", 0, none⟩]],
        .passed (.extension [.name "Other"] [.mark '\x7b', .mark ';', .mark '\x7d'])],
      .service "Search"
        [.given ⟨⟨"Find", "Query", false, "stream", true⟩, some [.empty]⟩]]

/-- What the file declares. -/
def sampleDeclarations : Declarations :=
  [("demo.Query", .message [⟨"text", "string", .string, 1, false, some "q"⟩,
      ⟨"ids", "int32", .int, 2, true, none⟩,
      ⟨"counts", "map<string, float>", .map, 3, false, none⟩]),
    ("demo.Query.Inner", .message []), ("demo.Query.Inner.Kind", .enum [("OFF", -1), ("ON", 0)]),
    ("demo.Search", .service [⟨"Find", "Query", false, "stream", true⟩])]

theorem sampleTree_declarations : sampleTree.declarations = sampleDeclarations := by
  decide

theorem sampleTree_wellFormed : sampleTree.WellFormed where
  headings := List.forall_mem_singleton.mpr ⟨by decide, by decide, by decide⟩
  items := by
    have text : FieldTree.WellFormed ⟨none, .named "string", "text", 1, none⟩ :=
      ⟨by decide, by rintro _ ⟨⟩; decide, nofun⟩
    have ids : FieldTree.WellFormed ⟨some .repeated, .named "int32", "ids", 2,
        some [.name "packed", .mark '=', .mark '[', .mark ']']⟩ :=
      ⟨by decide, by rintro _ ⟨⟩; decide, by rintro _ ⟨⟩; decide⟩
    have counts : FieldTree.WellFormed ⟨none, .map "string" "float", "counts", 3, none⟩ :=
      ⟨by decide, nofun, nofun⟩
    have off : ValueTree.WellFormed ⟨"OFF", -1, none⟩ := ⟨by decide, nofun⟩
    have on : ValueTree.WellFormed ⟨"ON", 0, none⟩ := ⟨by decide, nofun⟩
    refine List.forall_mem_cons.mpr ⟨?_, List.forall_mem_singleton.mpr ?_⟩
    · simp only [FileItem.WellFormed, MemberTree.AllWellFormed, MemberTree.WellFormed,
        List.forall_mem_cons, Part.Fits, Passed.Fits]
      refine ⟨by decide, ⟨text, trivial, nofun⟩, ids, counts, ⟨⟨off, on, nofun⟩, trivial⟩,
        ⟨trivial, by decide, by decide⟩, trivial⟩
    · exact List.forall_mem_singleton.mpr fun _ is => by
        cases is
        exact List.forall_mem_singleton.mpr trivial

/-- The sample is read back, also behind a comment and with all its parts. -/
theorem declarations_of_sampleTree_are_read_back : sampleTree.WellFormed
    ∧ (∀ token ∈ sampleTree.bare.tokens, token.isWritten = true)
    ∧ File.parse "demo.proto" sampleTree.bare.text = .ok ⟨"demo.proto", "demo", sampleDeclarations⟩
    ∧ File.parse "demo.proto"
        (String.ofList ('/' :: '*' :: ['\n', '*'] ++ '*' :: '/' :: writtenAll sampleTree.tokens))
      = .ok ⟨"demo.proto", "demo", sampleDeclarations⟩ := by
  have written : ∀ token ∈ sampleTree.bare.tokens, token.isWritten = true := by decide
  obtain ⟨bare, whole⟩ :=
    declarations_are_read_back sampleTree sampleTree_wellFormed written "demo.proto"
  rw [sampleTree_declarations] at bare whole
  refine ⟨sampleTree_wellFormed, written, bare, whole _ ?_⟩
  rw [String.toList_ofList]
  exact .blockComment (by decide) (spells_writtenAll (by decide))

end PixelApplet.Descriptor
