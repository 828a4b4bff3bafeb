import PixelApplet.Proofs.Descriptor.TreeReading

/-!
# Reading declarations back

Fields, values, methods, messages and whole files are read back from their words.  Each reader has
one statement, in the order of the readers: in front of the words of a tree, and with turns enough
for them, it ends behind these words and gives what the tree declares.
-/

namespace PixelApplet.Descriptor

open Reading

variable {behind : List Token}

/-! ## Fields -/

namespace FieldType

/-- The first word of a type. -/
def head : FieldType → String
  | named name => name
  | map _ _ => "map"

/-- The words of a type behind its first one. -/
def others : FieldType → List Token
  | named _ => []
  | map key value => [.mark '<', .name key, .mark ',', .name value, .mark '>']

theorem tokens_eq (type : FieldType) : type.tokens = .name type.head :: type.others := by
  cases type <;> rfl

/-- The name of a field stands behind its type. -/
theorem reads_type (type : FieldType) {word : String} :
    Reads (readType type.head) (type.others ++ .name word :: behind) (.name word :: behind)
      (type.typeName, type.kind) := by
  cases type with
  | named name =>
    refine reads_next?.bind ?_
    rw [others, List.nil_append, List.head?_cons, if_neg (by simp)]
    exact reads_pure _
  | map key value =>
    refine reads_next?.bind ?_
    rw [if_pos ⟨rfl, rfl⟩]
    exact reads_skip.bind (reads_name.bind (reads_expect.bind (reads_name.bind
      (reads_expect.bind (reads_pure _)))))

end FieldType

namespace FieldTree

/-- The first word of a field. -/
def head (field : FieldTree) : String :=
  match field.label with
  | some label => label.word
  | none => field.type.head

/-- The words of a field behind its first one. -/
def others (field : FieldTree) : List Token :=
  (match field.label with
    | some _ => field.type.tokens
    | none => field.type.others)
    ++ [.name field.name, .mark '=', .int field.number] ++ bracketed field.options ++ [.mark ';']

theorem tokens_eq (field : FieldTree) : field.tokens = .name field.head :: field.others := by
  rw [tokens, head, others]
  cases field.label with
  | none => simp [FieldType.tokens_eq]
  | some label => simp

/-- The words of a field from its type on. -/
def fromType (field : FieldTree) : List Token :=
  field.type.others ++ .name field.name :: .mark '=' :: .int field.number
    :: (bracketed field.options ++ [.mark ';'])

theorem others_eq (field : FieldTree) :
    field.others = match field.label with
      | some _ => .name field.type.head :: field.fromType
      | none => field.fromType := by
  rw [others, fromType]
  cases field.label with
  | none => simp
  | some label => simp [FieldType.tokens_eq]

/-- The first word of a type is no label. -/
theorem WellFormed.head_not_reserved {field : FieldTree} (wellFormed : field.WellFormed) :
    field.type.head ∉ reservedWords := by
  cases same : field.type with
  | named name => exact wellFormed.type name same
  | map key value => exact (by decide : "map" ∉ reservedWords)

/-- Exactly the fields that begin with the label of repeated ones are repeated. -/
theorem WellFormed.repeated_iff {field : FieldTree} (wellFormed : field.WellFormed) :
    field.head = "repeated" ↔ field.label = some .repeated := by
  rw [head]
  cases field.label with
  | none =>
    have plain : field.type.head ≠ "repeated" := fun same =>
      wellFormed.head_not_reserved (same ▸ by decide)
    simp [plain]
  | some label => cases label <;> simp [Label.word]

/-- The first word of a field begins nothing else in a message. -/
theorem WellFormed.head_not_keyword {field : FieldTree} (wellFormed : field.WellFormed) :
    field.head ∉ ["message", "enum", "oneof", "extend", "option", "reserved", "extensions"] := by
  rw [head]
  cases field.label with
  | none =>
    have plain := wellFormed.head_not_reserved
    simp only [reservedWords, List.mem_cons, not_or] at plain
    simp [plain]
  | some label => cases label <;> simp [Label.word]

/-- A label in front of the type is passed over. -/
theorem reads_label {β : Type} {next : String → Reading β} {field : FieldTree}
    (wellFormed : field.WellFormed) {left : List Token} {result : β}
    (rest : Reads (next field.type.head) (field.fromType ++ behind) left result) :
    Reads
      (if field.head = "repeated" ∨ field.head = "optional" ∨ field.head = "required"
        then Reading.name >>= next else pure field.head >>= next)
      (field.others ++ behind) left result := by
  rw [others_eq, head]
  cases field.label with
  | none =>
    have plain := wellFormed.head_not_reserved
    simp only [reservedWords, List.mem_cons, not_or] at plain
    obtain ⟨-, -, -, -, -, -, -, notOptional, notRequired, notRepeated, -⟩ := plain
    simp only [notOptional, notRequired, notRepeated, or_self, if_false]
    exact (reads_pure field.type.head).bind rest
  | some label =>
    rw [if_pos (by cases label <;> simp [Label.word])]
    exact reads_name.bind rest

/-- A field is read from its words; its first one was taken. -/
theorem reads_field {field : FieldTree} (wellFormed : field.WellFormed) (oneof : Option String) :
    Reads (readField field.head oneof) (field.others ++ behind) behind (field.declared oneof) := by
  rw [readField, declared, ← decide_eq_decide.mpr wellFormed.repeated_iff]
  refine reads_label wellFormed ?_
  have regrouped : field.fromType ++ behind = field.type.others ++ .name field.name :: .mark '='
      :: .int field.number :: (bracketed field.options ++ .mark ';' :: behind) := by
    simp [fromType]
  rw [regrouped]
  refine field.type.reads_type.bind (reads_name.bind (reads_expect.bind (reads_next?.bind ?_)))
  dsimp only [List.head?_cons]
  rw [if_pos wellFormed.positive]
  exact reads_skip.bind ((reads_options wellFormed.options (by decide)).bind
    (reads_expect.bind (reads_pure _)))

end FieldTree

theorem passes_readAlternatives (oneof : String) :
    Passes ["option"] false (readAlternatives oneof) where
  empty others := reads_next?.bind (reads_skip.bind others)
  statement := by
    intro turns word rest behind value known others
    rw [List.mem_singleton] at known
    subst known
    exact reads_next?.bind (reads_skip.bind others)
  extension := nofun

/-- Alternatives are read up to the brace behind them. -/
theorem reads_alternatives {oneof : String} {alternatives : List (Part FieldTree)}
    (fit : ∀ part ∈ alternatives, part.Fits ["option"] FieldTree.WellFormed) {turns : Nat}
    (enough : alternatives.length < turns) :
    Reads (readAlternatives oneof turns)
      (alternatives.flatMap (Part.tokens FieldTree.tokens) ++ .mark '\x7d' :: behind) behind
      ((givens alternatives).map fun field => field.declared (some oneof)) := by
  refine (passes_readAlternatives oneof).parts
    (fun _ => reads_next?.bind (reads_skip.bind (reads_pure _))) ?_ fit enough
  intro field turns rest values wellFormed others
  have noOption : field.head ≠ "option" := fun same =>
    wellFormed.head_not_keyword (by rw [same]; decide)
  rw [FieldTree.tokens_eq, List.cons_append]
  refine reads_next?.bind (reads_skip.bind ?_)
  rw [if_neg noOption]
  exact (FieldTree.reads_field wellFormed (some oneof)).bind (others.bind (reads_pure _))

/-! ## Enumerations -/

theorem passes_readValues : Passes ["option", "reserved"] false readValues where
  empty others := reads_next?.bind (reads_skip.bind others)
  statement := by
    intro turns word rest behind value known others
    refine reads_next?.bind (reads_skip.bind ?_)
    rw [if_pos (by simpa using known)]
    exact others
  extension := nofun

/-- Values are read up to the brace behind them. -/
theorem reads_values {values : List (Part ValueTree)}
    (fit : ∀ part ∈ values, part.Fits ["option", "reserved"] ValueTree.WellFormed) {turns : Nat}
    (enough : values.length < turns) :
    Reads (readValues turns)
      (values.flatMap (Part.tokens ValueTree.tokens) ++ .mark '\x7d' :: behind) behind
      ((givens values).map ValueTree.declared) := by
  refine passes_readValues.parts
    (fun _ => reads_next?.bind (reads_skip.bind (reads_pure _))) ?_ fit enough
  intro value turns rest values wellFormed others
  have plain := wellFormed.name
  simp only [reservedWords, List.mem_cons, not_or] at plain
  have regrouped : value.tokens ++ rest = .name value.name :: .mark '=' :: .int value.number
      :: (bracketed value.options ++ .mark ';' :: rest) := by
    simp [ValueTree.tokens]
  rw [regrouped]
  refine reads_next?.bind (reads_skip.bind ?_)
  rw [if_neg (by simp [plain])]
  refine reads_expect.bind (reads_next?.bind (reads_skip.bind ?_))
  exact (reads_options wellFormed.options (by decide)).bind
    (reads_expect.bind (others.bind (reads_pure _)))

/-- Each part of a block is written by a word at least. -/
theorem length_le_flatMap {α : Type} {write : α → List Token} (written : ∀ a, write a ≠ [])
    (parts : List α) : parts.length ≤ (parts.flatMap write).length := by
  induction parts with
  | nil => exact Nat.zero_le _
  | cons a parts ih =>
    have first := List.length_pos_iff.mpr (written a)
    rw [List.flatMap_cons, List.length_append, List.length_cons]
    omega

theorem Passed.tokens_ne_nil (p : Passed) : p.tokens ≠ [] := by
  cases p <;> simp [Passed.tokens]

theorem Part.tokens_ne_nil {α : Type} {write : α → List Token} (written : ∀ a, write a ≠ [])
    (part : Part α) : part.tokens write ≠ [] := by
  cases part with
  | passed p => exact p.tokens_ne_nil
  | given a => exact written a

theorem FieldTree.tokens_ne_nil (field : FieldTree) : field.tokens ≠ [] := by
  rw [tokens_eq]
  exact List.cons_ne_nil _ _

theorem ValueTree.tokens_ne_nil (value : ValueTree) : value.tokens ≠ [] :=
  List.cons_ne_nil _ _

theorem MethodTree.tokens_ne_nil (method : MethodTree) : method.tokens ≠ [] :=
  List.cons_ne_nil _ _

/-- A block has fewer parts than the reader has turns for its words. -/
theorem parts_lt_turns {α : Type} {write : α → List Token} (written : ∀ a, write a ≠ [])
    (parts : List α) : parts.length < (parts.flatMap write ++ behind).length + 1 := by
  have := length_le_flatMap written parts
  rw [List.length_append]
  omega

/-- An enumeration is read from its words; the first one was taken. -/
theorem reads_enum {scope name : String} {values : List (Part ValueTree)}
    (fit : ∀ part ∈ values, part.Fits ["option", "reserved"] ValueTree.WellFormed) :
    Reads (readEnum scope) (.name name :: .mark '\x7b'
        :: (values.flatMap (Part.tokens ValueTree.tokens) ++ .mark '\x7d' :: behind))
      behind (enumDeclared scope name values) :=
  reads_name.bind (reads_expect.bind (reads_turns.bind
    ((reads_values fit (parts_lt_turns (Part.tokens_ne_nil ValueTree.tokens_ne_nil) values)).bind
      (reads_pure _))))

/-! ## Services -/

/-- A type in a signature is read from its words; a type may be named like the word before streamed
ones. -/
theorem reads_methodType (streaming : Bool) (typeName : String) :
    Reads readMethodType (signatureTokens streaming typeName ++ behind) behind
      (streaming, typeName) := by
  cases streaming with
  | true =>
    exact reads_expect.bind (reads_name.bind (reads_next?.bind (reads_name.bind
      (reads_expect.bind (reads_pure _)))))
  | false =>
    have written : signatureTokens false typeName ++ behind
        = .mark '(' :: .name typeName :: .mark ')' :: behind := rfl
    rw [written]
    refine reads_expect.bind (reads_name.bind (reads_next?.bind ?_))
    simp only [List.head?_cons, Bool.and_false, Bool.false_eq_true, if_false]
    exact (reads_pure typeName).bind (reads_expect.bind (reads_pure _))

theorem passes_readMethodOptions : Passes ["option"] false readMethodOptions where
  empty others := reads_next?.bind (reads_skip.bind others)
  statement := by
    intro turns word rest behind value known others
    rw [List.mem_singleton] at known
    subst known
    exact reads_next?.bind (reads_skip.bind others)
  extension := nofun

/-- The options of a method are read up to the brace behind them. -/
theorem reads_methodOptions {parts : List Passed} (fit : ∀ p ∈ parts, p.Fits ["option"] false)
    {turns : Nat} (enough : parts.length < turns) :
    Reads (readMethodOptions turns) (parts.flatMap Passed.tokens ++ .mark '\x7d' :: behind) behind
      () := by
  induction parts generalizing turns with
  | nil =>
    obtain ⟨turns, rfl⟩ := Nat.exists_eq_add_one.mpr enough
    exact reads_next?.bind reads_skip
  | cons p parts ih =>
    obtain ⟨turns, rfl⟩ := Nat.exists_eq_add_one.mpr (Nat.zero_lt_of_lt enough)
    rw [List.forall_mem_cons] at fit
    rw [List.length_cons] at enough
    rw [List.flatMap_cons, List.append_assoc]
    exact passes_readMethodOptions.passed fit.1 (ih fit.2 (by omega))

/-- A method is read from its words; the first one was taken. -/
theorem reads_method {method : MethodTree} (wellFormed : method.WellFormed) :
    Reads readMethod (method.tokens.tail ++ behind) behind method.toMethod := by
  have regrouped : method.tokens.tail ++ behind = .name method.name
      :: (signatureTokens method.clientStreaming method.input ++ .name "returns"
        :: (signatureTokens method.serverStreaming method.output
          ++ (endingTokens method.body ++ behind))) := by
    simp [MethodTree.tokens]
  rw [regrouped]
  refine reads_name.bind ((reads_methodType method.clientStreaming method.input).bind
    (reads_expect.bind ((reads_methodType method.serverStreaming method.output).bind
      (reads_next?.bind ?_))))
  cases bodied : method.body with
  | none => exact reads_skip.bind (reads_pure _)
  | some parts =>
    have fit : ∀ p ∈ parts, p.Fits ["option"] false := wellFormed parts bodied
    have inside : endingTokens (some parts) ++ behind
        = .mark '\x7b' :: (parts.flatMap Passed.tokens ++ .mark '\x7d' :: behind) := by
      simp [endingTokens]
    rw [inside]
    exact reads_skip.bind (reads_turns.bind
      ((reads_methodOptions fit (parts_lt_turns Passed.tokens_ne_nil parts)).bind (reads_pure _)))

theorem passes_readMethods : Passes ["option"] false readMethods where
  empty others := reads_next?.bind (reads_skip.bind others)
  statement := by
    intro turns word rest behind value known others
    rw [List.mem_singleton] at known
    subst known
    exact reads_next?.bind (reads_skip.bind others)
  extension := nofun

/-- A service is read from its words; the first one was taken. -/
theorem reads_service {scope name : String} {methods : List (Part MethodTree)}
    (fit : ∀ part ∈ methods, part.Fits ["option"] MethodTree.WellFormed) :
    Reads (readService scope) (.name name :: .mark '\x7b'
        :: (methods.flatMap (Part.tokens MethodTree.tokens) ++ .mark '\x7d' :: behind))
      behind (qualified scope name, .service ((givens methods).map MethodTree.toMethod)) := by
  refine reads_name.bind (reads_expect.bind (reads_turns.bind (Reads.bind ?_ (reads_pure _))))
  refine passes_readMethods.parts (fun _ => reads_next?.bind (reads_skip.bind (reads_pure _))) ?_
    fit (parts_lt_turns (Part.tokens_ne_nil MethodTree.tokens_ne_nil) methods)
  intro method turns rest values wellFormed others
  exact reads_next?.bind (reads_skip.bind ((reads_method wellFormed).bind
    (others.bind (reads_pure _))))

/-! ## Messages -/

theorem passes_readMembers (scope : String) :
    Passes ["option", "reserved", "extensions"] true (readMembers scope) where
  empty others := by
    rw [readMembers]
    exact reads_next?.bind (reads_skip.bind others)
  statement := by
    intro turns word rest behind value known others
    rw [readMembers]
    refine reads_next?.bind (reads_skip.bind ?_)
    simp only [List.mem_cons, List.not_mem_nil, or_false] at known
    obtain rfl | rfl | rfl := known <;> exact others
  extension := by
    intro turns rest behind value _ others
    rw [readMembers]
    exact reads_next?.bind (reads_skip.bind others)

/-- A message whose members are read is read itself; its first word was taken. -/
theorem reads_message {scope name : String} {members : List MemberTree} {turns : Nat}
    (inside : Reads (readMembers (qualified scope name) turns)
      (MemberTree.allTokens members ++ .mark '\x7d' :: behind) behind
      (members.flatMap MemberTree.fields, MemberTree.allNested (qualified scope name) members)) :
    Reads (readMessage scope (turns + 1)) (.name name :: .mark '\x7b'
        :: (MemberTree.allTokens members ++ .mark '\x7d' :: behind))
      behind ((MemberTree.message name members).nested scope) := by
  rw [readMessage, MemberTree.nested]
  exact reads_name.bind (reads_expect.bind (inside.bind (reads_pure _)))

/-- The words of a block, and what stands behind it. -/
theorem blockTokens_append (word name : String) (inside : List Token) :
    blockTokens word name inside ++ behind
      = .name word :: .name name :: .mark '\x7b' :: (inside ++ .mark '\x7d' :: behind) := by
  simp [blockTokens]

theorem length_blockTokens (word name : String) (inside : List Token) :
    (blockTokens word name inside).length = inside.length + 4 := by
  simp [blockTokens]

theorem MemberTree.tokens_ne_nil (member : MemberTree) : member.tokens ≠ [] := by
  cases member with
  | passed p => exact p.tokens_ne_nil
  | field field => exact field.tokens_ne_nil
  | oneof | enum | message => exact List.cons_ne_nil _ _

mutual

/-- A member is read from its words, given how the members behind it are read. -/
theorem reads_member {scope : String} {turns : Nat} {rest behind : List Token}
    {fields : List Field} {nested : Declarations}
    (others : Reads (readMembers scope turns) rest behind (fields, nested)) :
    ∀ member : MemberTree, member.WellFormed → member.tokens.length ≤ turns →
      Reads (readMembers scope (turns + 1)) (member.tokens ++ rest) behind
        (member.fields ++ fields, member.nested scope ++ nested)
  | .passed p, fits, _ => (passes_readMembers scope).passed fits others
  | .field field, wellFormed, _ => by
    rw [MemberTree.WellFormed] at wellFormed
    have plain := wellFormed.head_not_keyword
    simp only [List.mem_cons, not_or] at plain
    rw [MemberTree.tokens, FieldTree.tokens_eq, readMembers, MemberTree.fields, MemberTree.nested]
    refine reads_next?.bind (reads_skip.bind ?_)
    simp only [plain, or_self, if_false]
    exact (field.reads_field wellFormed none).bind (others.bind (reads_pure _))
  | .oneof name alternatives, fit, _ => by
    rw [MemberTree.WellFormed] at fit
    rw [MemberTree.tokens, blockTokens_append, readMembers, MemberTree.fields, MemberTree.nested]
    refine reads_next?.bind (reads_skip.bind (reads_name.bind (reads_expect.bind
      (reads_turns.bind ?_))))
    exact (reads_alternatives fit
      (parts_lt_turns (Part.tokens_ne_nil FieldTree.tokens_ne_nil) alternatives)).bind
        (others.bind (reads_pure _))
  | .enum name values, fit, _ => by
    rw [MemberTree.WellFormed] at fit
    rw [MemberTree.tokens, enumTokens, blockTokens_append, readMembers, MemberTree.fields,
      MemberTree.nested]
    exact reads_next?.bind (reads_skip.bind ((reads_enum fit).bind (others.bind (reads_pure _))))
  | .message name members, fit, enough => by
    rw [MemberTree.WellFormed] at fit
    rw [MemberTree.tokens, length_blockTokens] at enough
    obtain ⟨inner, rfl⟩ := Nat.exists_eq_add_one.mpr (Nat.zero_lt_of_lt enough)
    have inside := reads_members (qualified scope name) members fit inner (by omega) rest
    rw [MemberTree.tokens, blockTokens_append, readMembers, MemberTree.fields]
    exact reads_next?.bind (reads_skip.bind ((reads_message inside).bind
      (others.bind (reads_pure _))))

/-- Members are read up to the brace behind them. -/
theorem reads_members (scope : String) : ∀ members : List MemberTree,
    MemberTree.AllWellFormed members → ∀ turns, (MemberTree.allTokens members).length < turns →
      ∀ behind, Reads (readMembers scope turns)
        (MemberTree.allTokens members ++ .mark '\x7d' :: behind) behind
        (members.flatMap MemberTree.fields, MemberTree.allNested scope members)
  | [], _, turns, enough, behind => by
    obtain ⟨turns, rfl⟩ := Nat.exists_eq_add_one.mpr enough
    rw [readMembers]
    exact reads_next?.bind (reads_skip.bind (reads_pure _))
  | member :: members, fit, turns, enough, behind => by
    obtain ⟨turns, rfl⟩ := Nat.exists_eq_add_one.mpr (Nat.zero_lt_of_lt enough)
    have written := List.length_pos_iff.mpr member.tokens_ne_nil
    rw [MemberTree.AllWellFormed] at fit
    rw [MemberTree.allTokens, List.length_append] at enough
    have others := reads_members scope members fit.2 turns (by omega) behind
    rw [MemberTree.allTokens, List.append_assoc, List.flatMap_cons, MemberTree.allNested]
    exact reads_member others member fit.1 (by omega)

end

/-- A message is read from its words with turns enough for them; the first word was taken. -/
theorem reads_wholeMessage {scope name : String} {members : List MemberTree}
    (fit : MemberTree.AllWellFormed members) {turns : Nat}
    (enough : (MemberTree.allTokens members).length + 1 < turns) :
    Reads (readMessage scope turns) (.name name :: .mark '\x7b'
        :: (MemberTree.allTokens members ++ .mark '\x7d' :: behind))
      behind ((MemberTree.message name members).nested scope) := by
  obtain ⟨turns, rfl⟩ := Nat.exists_eq_add_one.mpr (Nat.zero_lt_of_lt enough)
  exact reads_message (reads_members _ members fit turns (by omega) behind)

/-! ## Files -/

theorem passes_readFile (package : String) :
    Passes ["import", "option"] true fun turns => readFile turns package where
  empty others := reads_next?.bind (reads_skip.bind others)
  statement := by
    intro turns word rest behind value known others
    simp only [List.mem_cons, List.not_mem_nil, or_false] at known
    obtain rfl | rfl := known <;> exact reads_next?.bind (reads_skip.bind others)
  extension := by
    intro turns rest behind value _ others
    exact reads_next?.bind (reads_skip.bind others)

/-- A line that declares nothing is passed over. -/
theorem reads_heading {package : String} {turns : Nat} {rest : List Token}
    {value : String × Declarations} {heading : Heading} (wellFormed : heading.WellFormed)
    (others : Reads (readFile turns package) rest [] value) :
    Reads (readFile (turns + 1) package) (heading.tokens ++ rest) [] value := by
  cases heading with
  | passed p => exact (passes_readFile package).passed wellFormed others
  | language word text =>
    have line : Reads readLanguage (.mark '=' :: .text text :: .mark ';' :: rest) rest () :=
      reads_expect.bind (reads_next?.bind (reads_skip.bind reads_expect))
    simp only [Heading.WellFormed, List.mem_cons, List.not_mem_nil, or_false] at wellFormed
    obtain rfl | rfl := wellFormed <;>
      exact reads_next?.bind (reads_skip.bind (line.bind others))

/-- A part of a file is read from its words, given how the parts behind it are read. -/
theorem reads_item {package : String} {turns : Nat} {rest : List Token}
    {declarations : Declarations} {item : FileItem} (wellFormed : item.WellFormed)
    (others : Reads (readFile turns package) rest [] (package, declarations)) :
    Reads (readFile (turns + 1) package) (item.tokens ++ rest) []
      (package, item.declarations package ++ declarations) := by
  cases item with
  | heading heading => exact reads_heading wellFormed others
  | message name members =>
    rw [FileItem.tokens, blockTokens_append]
    refine reads_next?.bind (reads_skip.bind (reads_turns.bind ?_))
    refine (reads_wholeMessage wellFormed ?_).bind (others.bind (reads_pure _))
    simp only [List.length_cons, List.length_append]
    omega
  | enum name values =>
    rw [FileItem.tokens, enumTokens, blockTokens_append]
    exact reads_next?.bind (reads_skip.bind ((reads_enum wellFormed).bind
      (others.bind (reads_pure _))))
  | service name methods =>
    rw [FileItem.tokens, blockTokens_append]
    exact reads_next?.bind (reads_skip.bind ((reads_service wellFormed).bind
      (others.bind (reads_pure _))))

theorem Heading.tokens_ne_nil (heading : Heading) : heading.tokens ≠ [] := by
  cases heading with
  | passed p => exact p.tokens_ne_nil
  | language => exact List.cons_ne_nil _ _

theorem FileItem.tokens_ne_nil (item : FileItem) : item.tokens ≠ [] := by
  cases item with
  | heading heading => exact heading.tokens_ne_nil
  | message | enum | service => exact List.cons_ne_nil _ _

/-- The parts of a file are read up to its end. -/
theorem reads_items {package : String} {items : List FileItem}
    (wellFormed : ∀ item ∈ items, item.WellFormed) {turns : Nat} (enough : items.length < turns) :
    Reads (readFile turns package) (items.flatMap FileItem.tokens) []
      (package, items.flatMap (FileItem.declarations package)) := by
  induction items generalizing turns with
  | nil =>
    obtain ⟨turns, rfl⟩ := Nat.exists_eq_add_one.mpr enough
    exact reads_next?.bind (reads_pure _)
  | cons item items ih =>
    obtain ⟨turns, rfl⟩ := Nat.exists_eq_add_one.mpr (Nat.zero_lt_of_lt enough)
    rw [List.forall_mem_cons] at wellFormed
    rw [List.length_cons] at enough
    exact reads_item wellFormed.1 (ih wellFormed.2 (by omega))

/-- Lines that declare nothing are passed over one after the other. -/
theorem reads_headings {package : String} {headings : List Heading} {rest : List Token}
    {value : String × Declarations} (wellFormed : ∀ heading ∈ headings, heading.WellFormed)
    {turns : Nat} (others : Reads (readFile turns package) rest [] value) :
    Reads (readFile (headings.length + turns) package) (headings.flatMap Heading.tokens ++ rest) []
      value := by
  induction headings with
  | nil =>
    rw [List.length_nil, Nat.zero_add]
    exact others
  | cons heading headings ih =>
    rw [List.forall_mem_cons] at wellFormed
    rw [List.length_cons, Nat.add_right_comm, List.flatMap_cons, List.append_assoc]
    exact reads_heading wellFormed.1 (ih wellFormed.2)

/-- A file is read from its words. -/
theorem reads_file {tree : FileTree} (wellFormed : tree.WellFormed) {turns : Nat}
    (enough : tree.tokens.length < turns) :
    Reads (readFile turns "") tree.tokens [] (tree.packageName, tree.declarations) := by
  have headings := length_le_flatMap Heading.tokens_ne_nil tree.headings
  have items := length_le_flatMap FileItem.tokens_ne_nil tree.items
  rw [FileTree.tokens, List.length_append, List.length_append] at enough
  obtain ⟨turns, rfl⟩ := Nat.exists_eq_add_of_le
    (show tree.headings.length ≤ turns by omega)
  rw [FileTree.tokens, List.append_assoc]
  refine reads_headings wellFormed.headings ?_
  rw [FileTree.declarations, FileTree.packageName]
  cases named : tree.package with
  | none => exact reads_items wellFormed.items (by omega)
  | some name =>
    rw [named] at enough
    simp only [Option.toList_some, List.flatMap_cons, List.flatMap_nil, List.append_nil,
      List.length_cons, List.length_nil] at enough
    obtain ⟨turns, rfl⟩ := Nat.exists_eq_add_one.mpr (show 0 < turns by omega)
    exact reads_next?.bind (reads_skip.bind (reads_name.bind (reads_expect.bind
      (reads_items wellFormed.items (by omega)))))

end PixelApplet.Descriptor
