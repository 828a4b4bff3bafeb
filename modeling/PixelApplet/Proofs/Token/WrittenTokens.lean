import Mathlib.Tactic.IntervalCases
import PixelApplet.Proofs.Number.Numerals
import PixelApplet.Token.Lexer

/-!
# Tokens are written and read back

Tokens are written as lines, and each token is read again from its text.
-/

/-!
## Writing tokens as lines

The inverse of reading tokens: names, reserved words, marks, numbers and strings are written out,
separated by single spaces, and lines stand below each other in blocks, each block further to the
right than the line it belongs to.  What is written carries no positions, so its tokens are known
by their kinds alone.
-/

namespace PixelApplet

/-- A character of a text between double quotes. -/
def escapedChar (c : Char) : List Char :=
  match c with
  | '\n' => ['\\', 'n']
  | '\t' => ['\\', 't']
  | '\r' => ['\\', 'r']
  | '\x00' => ['\\', '0']
  | '\\' => ['\\', '\\']
  | '"' => ['\\', '"']
  | other => [other]

/-- A text between double quotes. -/
def doubleQuoted (text : List Char) : List Char :=
  '"' :: (text.flatMap escapedChar ++ ['"'])

/-- A spelling that the scanner takes for a name: it begins and goes on like one, and it is not
reserved. -/
def IsName (spelling : String) : Prop :=
  (∃ first others, spelling.toList = first :: others ∧ Text.beginsIdentifier first
    ∧ ∀ c ∈ others, Text.continuesIdentifier c) ∧ ∀ word : Keyword, word.text ≠ spelling

namespace TokenKind

/-- Tokens that are written out: not layout, and no fractions, whose text is not unique. -/
def IsWritten : TokenKind → Prop
  | keyword _ | symbol _ | string _ => True
  | identifier spelling => IsName spelling
  | int value => 0 ≤ value
  | float _ | newline | indent | dedent | endOfFile => False

/-- The text of a token that is written out. -/
def written : TokenKind → List Char
  | keyword word => word.text.toList
  | symbol mark => mark.text.toList
  | string text => doubleQuoted text.toList
  | identifier spelling => spelling.toList
  | int value => Nat.toDigits 10 value.toInt.toNat
  | float _ | newline | indent | dedent | endOfFile => []

end TokenKind

/-- The opening and closing marks that belong together. -/
def bracketPairs : List (Symbol × Symbol) :=
  [(.leftParen, .rightParen), (.leftBracket, .rightBracket), (.leftBrace, .rightBrace)]

theorem mem_bracketPairs {opening closing : Symbol} : (opening, closing) ∈ bracketPairs ↔
    opening = .leftParen ∧ closing = .rightParen
      ∨ opening = .leftBracket ∧ closing = .rightBracket
      ∨ opening = .leftBrace ∧ closing = .rightBrace := by
  simp [bracketPairs]

/-- Marks that open or close a bracket. -/
def TokenKind.IsBracket : TokenKind → Prop
  | symbol mark => ∃ pair ∈ bracketPairs, mark = pair.1 ∨ mark = pair.2
  | keyword _ | identifier _ | int _ | float _ | string _ => False
  | newline | indent | dedent | endOfFile => False

instance : DecidablePred TokenKind.IsBracket
  | .symbol mark =>
    inferInstanceAs (Decidable (∃ pair ∈ bracketPairs, mark = pair.1 ∨ mark = pair.2))
  | .keyword _ | .identifier _ | .int _ | .float _ | .string _ => instDecidableFalse
  | .newline | .indent | .dedent | .endOfFile => instDecidableFalse

/-- Every bracket that is opened is closed by its own mark, and the other way round. -/
inductive Balanced : List TokenKind → Prop
  | nil : Balanced []
  | cons {word : TokenKind} {rest : List TokenKind} (plain : ¬word.IsBracket)
      (balanced : Balanced rest) : Balanced (word :: rest)
  | enclosed {opening closing : Symbol} {inner rest : List TokenKind}
      (pair : (opening, closing) ∈ bracketPairs) (balancedInner : Balanced inner)
      (balanced : Balanced rest) :
      Balanced (.symbol opening :: (inner ++ .symbol closing :: rest))

/-- The tokens of a logical line. -/
structure IsLine (words : List TokenKind) : Prop where
  nonempty : words ≠ []
  written : ∀ word ∈ words, word.IsWritten
  balanced : Balanced words

/-- The text of a logical line, without its margin. -/
def writtenLine (words : List TokenKind) : List Char :=
  [' '].intercalate (words.map TokenKind.written)

/-- White space in front of a line. -/
def IsMargin (margin : List Char) : Prop :=
  ∀ c ∈ margin, c = ' ' ∨ c = '\t'

/-- The column behind a margin: a tab reaches to the next multiple of eight. -/
def marginWidth (margin : List Char) : Nat :=
  margin.foldl (fun column c => if c = '\t' then (column / 8 + 1) * 8 else column + 1) 0

/-- Logical lines from top to bottom: each has its margin, its tokens, the block below it, which
may be empty, and the lines that follow. -/
inductive Outline where
  | nil
  | line (margin : List Char) (words : List TokenKind) (block rest : Outline)

namespace Outline

/-- All lines begin in one column, and the lines of a block in a column further to the right. -/
def StandsAt (column : Nat) : Outline → Prop
  | nil => True
  | line margin words block rest =>
    IsMargin margin ∧ marginWidth margin = column ∧ IsLine words
      ∧ (∃ inner, column < inner ∧ block.StandsAt inner) ∧ rest.StandsAt column

/-- The text of the lines. -/
def text : Outline → List Char
  | nil => []
  | line margin words block rest =>
    margin ++ (writtenLine words ++ '\n' :: (block.text ++ rest.text))

/-- The tokens of a block, between the marks of its indentation. -/
def indentedKinds : List TokenKind → List TokenKind
  | [] => []
  | kinds => .indent :: (kinds ++ [.dedent])

/-- The kinds of the tokens of the lines. -/
def kinds : Outline → List TokenKind
  | nil => []
  | line _ words block rest =>
    words ++ .newline :: (indentedKinds block.kinds ++ rest.kinds)

end Outline

end PixelApplet

/-!
## Reading written tokens

Each token that is written out is read again from its text, as long as a blank or a line end
follows it.  Words, numbers and strings may also stand in front of a mark that separates or closes,
and at the end of the text; brackets and separating marks may stand in front of anything.
-/

namespace PixelApplet

/-- What follows a written token: a blank or a line end. -/
def EndsToken (after : List Char) : Prop :=
  ∃ rest, after = ' ' :: rest ∨ after = '\n' :: rest

/-- Characters that continue no word, number or string. -/
def delimiters : List Char :=
  [' ', '\n', ',', ':', ')', ']', '\x7d']

/-- What may follow a word, a number or a string: the end of the text, or a character that does not
continue it. -/
def Delimits (after : List Char) : Prop :=
  ∀ c rest, after = c :: rest → c ∈ delimiters

theorem EndsToken.delimits {after : List Char} (ends : EndsToken after) : Delimits after := by
  rintro c _ rfl
  obtain ⟨rest, same | same⟩ := ends <;> cases same <;> decide

/-- Behind a word, a number or a string stands no character of a class that leaves the delimiters
out. -/
theorem Delimits.fails {after rest : List Char} {c : Char} (ends : Delimits after)
    (same : after = c :: rest) {p : Char → Bool} (none_ : delimiters.all fun c => !p c) :
    p c = false := by
  rw [← Bool.not_eq_true']
  exact List.all_eq_true.mp none_ c (ends c rest same)

/-- The characters that do not begin a token: blanks, comments and line ends. -/
def leadsNoToken : List Char :=
  [' ', '\t', '\r', '\x0c', '#', '\\', '\n']

/-- From a text the given token is read, and it takes the given number of characters. -/
def ReadsToken (text : List Char) (kind : TokenKind) (width : Nat) : Prop :=
  ∃ first rest, text = first :: rest ∧ first ∉ leadsNoToken
    ∧ Lexeme.read first rest = .ok (kind, width)

namespace Lexeme

variable {after : List Char}

theorem not_leadsNoToken {first : Char} {p : Char → Bool} (holds : p first)
    (fails : leadsNoToken.all fun c => !p c) : first ∉ leadsNoToken := by
  intro member
  have := List.all_eq_true.mp fails first member
  rw [holds] at this
  cases this

/-! ## Marks -/

theorem readsToken_symbol (mark : Symbol) (ends : EndsToken after) :
    ReadsToken (mark.text.toList ++ after) (.symbol mark) mark.text.toList.length := by
  obtain ⟨rest, rfl | rfl⟩ := ends <;> cases mark <;>
    exact ⟨_, _, rfl, by decide, rfl⟩

/-! ## Words -/

theorem takeWhile_continuesIdentifier {others : List Char}
    (continue_ : ∀ c ∈ others, Text.continuesIdentifier c) (ends : Delimits after) :
    (others ++ after).takeWhile Text.continuesIdentifier = others := by
  rw [List.takeWhile_append_of_pos continue_]
  cases after with
  | nil => exact List.append_nil others
  | cons c rest =>
    have stops : Text.continuesIdentifier c = false := ends.fails rfl (by decide)
    rw [List.takeWhile_cons_of_neg (stops ▸ Bool.false_ne_true), List.append_nil]

/-- Behind the first letter of a name no quote opens a raw string. -/
theorem not_quote_of_name {others : List Char} {quote : Char}
    (continue_ : ∀ c ∈ others, Text.continuesIdentifier c) (ends : Delimits after)
    (isQuote : quote = '"' ∨ quote = '\x27') : (others ++ after).head? ≠ some quote := by
  intro same
  cases others with
  | nil =>
    cases after with
    | nil => cases same
    | cons c rest =>
      cases same
      have member := ends quote rest rfl
      obtain rfl | rfl := isQuote <;> exact absurd member (by decide)
  | cons c _ =>
    cases same
    have continues := continue_ quote List.mem_cons_self
    obtain rfl | rfl := isQuote <;> cases continues

/-- The token of a word: a reserved word or a name. -/
def wordKind (spelling : String) : TokenKind :=
  match Keyword.ofText? spelling with
  | some word => .keyword word
  | none => .identifier spelling

theorem wordKind_text (word : Keyword) : wordKind word.text = .keyword word := by
  cases word <;> rfl

theorem wordKind_of_not_reserved {spelling : String}
    (free : ∀ word : Keyword, word.text ≠ spelling) : wordKind spelling = .identifier spelling := by
  have none_ : Keyword.ofText? spelling = none := by
    refine List.find?_eq_none.mpr fun word _ => ?_
    rw [decide_eq_true_eq]
    exact free word
  rw [wordKind, none_]

/-- Unless a quote opens a raw string, a word is a reserved word or a name. -/
theorem word_of_no_quote {first : Char} {text : List Char}
    (noQuote : first = 'r' → text.head? ≠ some '"' ∧ text.head? ≠ some '\x27') :
    word first text
      = .ok (wordKind (String.ofList (first :: text.takeWhile Text.continuesIdentifier)),
        (first :: text.takeWhile Text.continuesIdentifier).length) := by
  unfold word
  split
  · exact absurd rfl (noQuote rfl).1
  · exact absurd rfl (noQuote rfl).2
  · rfl

theorem word_of_name {first : Char} {others : List Char}
    (continue_ : ∀ c ∈ others, Text.continuesIdentifier c) (ends : Delimits after) :
    word first (others ++ after)
      = .ok (wordKind (String.ofList (first :: others)), (first :: others).length) := by
  have noDouble := not_quote_of_name continue_ ends (.inl rfl)
  have noSingle := not_quote_of_name continue_ ends (.inr rfl)
  rw [word_of_no_quote fun _ => ⟨noDouble, noSingle⟩, takeWhile_continuesIdentifier continue_ ends]

theorem readsToken_word {spelling : String} {first : Char} {others : List Char}
    (spelled : spelling.toList = first :: others) (begins : Text.beginsIdentifier first)
    (continue_ : ∀ c ∈ others, Text.continuesIdentifier c) (ends : Delimits after) :
    ReadsToken (spelling.toList ++ after) (wordKind spelling) spelling.toList.length := by
  refine ⟨first, others ++ after, ?_, not_leadsNoToken begins (by decide), ?_⟩
  · rw [spelled]
    rfl
  · have same : String.ofList (first :: others) = spelling := by
      rw [← spelled, String.ofList_toList]
    rw [read, if_pos begins, word_of_name continue_ ends, same, spelled]

theorem readsToken_keyword (word : Keyword) (ends : Delimits after) :
    ReadsToken (word.text.toList ++ after) (.keyword word) word.text.toList.length := by
  obtain ⟨first, others, spelled, begins, continue_⟩ : ∃ first others,
      word.text.toList = first :: others ∧ Text.beginsIdentifier first
        ∧ ∀ c ∈ others, Text.continuesIdentifier c := by
    cases word <;> exact ⟨_, _, rfl, by decide, List.all_eq_true.mp (by decide)⟩
  have reads := readsToken_word spelled begins continue_ ends
  rw [wordKind_text] at reads
  exact reads

theorem readsToken_identifier {spelling : String} (name : IsName spelling)
    (ends : Delimits after) :
    ReadsToken (spelling.toList ++ after) (.identifier spelling) spelling.toList.length := by
  obtain ⟨⟨first, others, spelled, begins, continue_⟩, free⟩ := name
  have reads := readsToken_word spelled begins continue_ ends
  rw [wordKind_of_not_reserved free] at reads
  exact reads

/-! ## Numbers -/

/-- The decimal digits. -/
def decimalDigits : List Char :=
  ['0', '1', '2', '3', '4', '5', '6', '7', '8', '9']

theorem mem_decimalDigits {c : Char} (digit : Text.isDecimalDigit c) : c ∈ decimalDigits := by
  rw [Text.isDecimalDigit, Bool.and_eq_true, decide_eq_true_eq, decide_eq_true_eq] at digit
  have low : 48 ≤ c.toNat := digit.1
  have high : c.toNat ≤ 57 := digit.2
  have same : c = Char.ofNat c.toNat := (Char.ofNat_toNat c).symm
  rw [same]
  interval_cases c.toNat <;> decide

theorem forall_digit {c : Char} {p : Char → Bool} (digit : Text.isDecimalDigit c)
    (holds : decimalDigits.all p) : p c :=
  List.all_eq_true.mp holds c (mem_decimalDigits digit)

theorem numeralTail_digits {digits : List Char} (all : ∀ c ∈ digits, Text.isDecimalDigit c)
    (ends : Delimits after) : numeralTail false (digits ++ after) = (digits, false) := by
  induction digits with
  | nil =>
    cases after with
    | nil => rw [List.nil_append, numeralTail.eq_def]
    | cons c rest =>
      have noDigit : Text.isDecimalDigit c = false := ends.fails rfl (by decide)
      have noPoint := ends.fails rfl (p := (· = '.')) (by decide)
      have noExponent := ends.fails rfl (p := fun c => c = 'e' ∨ c = 'E') (by decide)
      rw [List.nil_append, numeralTail.eq_def]
      dsimp only
      rw [if_neg (noDigit ▸ Bool.false_ne_true), if_neg fun point => of_decide_eq_false noPoint point.1,
        if_neg (of_decide_eq_false noExponent)]
  | cons c digits ih =>
    have tail := ih fun d member => all d (List.mem_cons_of_mem c member)
    rw [List.cons_append, numeralTail.eq_def]
    simp only [all c List.mem_cons_self, if_true, tail]

theorem isDecimalDigit_of_mem_toDigits {n : Nat} (c : Char) (member : c ∈ Nat.toDigits 10 n) :
    Text.isDecimalDigit c :=
  Nat.isDigit_of_mem_toDigits (by decide) (by decide) member

theorem word?_toDigits {value : Int64} (natural : 0 ≤ value) :
    Numeral.word? 10 (Nat.toDigits 10 value.toInt.toNat) = some value := by
  have read : Numeral.natural? 10 (Nat.toDigits 10 value.toInt.toNat)
      = some value.toInt.toNat :=
    Numeral.natural?_eq_some_iff.mpr (Numeral.isNumeral_toDigits _)
  have same : (value.toInt.toNat : Int) = value.toInt :=
    Int.toNat_of_nonneg (Int64.le_iff_toInt_le.mp natural)
  have fits : Word.least ≤ value.toInt ∧ value.toInt ≤ Word.greatest :=
    ⟨value.le_toInt, Int.le_of_lt_add_one value.toInt_lt⟩
  rw [Numeral.word?, read, Option.bind_some, same, Word.ofInt?, if_pos fits, Int64.ofInt_toInt]

theorem decimal_of_digits {first : Char} {digits : List Char} {value : Int64}
    (digit : Text.isDecimalDigit first) (all : ∀ c ∈ digits, Text.isDecimalDigit c)
    (word : Numeral.word? 10 (first :: digits) = some value) (ends : Delimits after) :
    number.decimal first (digits ++ after) = .ok (.int value, (first :: digits).length) := by
  have noPoint : decide (first = '.') = false := by
    rw [← Bool.not_eq_true']
    exact forall_digit (p := fun c => !decide (c = '.')) digit (by decide)
  rw [number.decimal, noPoint, numeralTail_digits all ends]
  simp only [Bool.false_eq_true, if_false, word, Option.map_some]

theorem number_of_digits {first : Char} {digits : List Char} {value : Int64}
    (digit : Text.isDecimalDigit first) (all : ∀ c ∈ digits, Text.isDecimalDigit c)
    (word : Numeral.word? 10 (first :: digits) = some value) (ends : Delimits after) :
    number first (digits ++ after) = .ok (.int value, (first :: digits).length) := by
  have decimal := decimal_of_digits digit all word ends
  unfold number
  split
  · rename_i x rest same
    have notHexadecimal : ¬(x = 'x' ∨ x = 'X') := by
      cases digits with
      | nil =>
        exact of_decide_eq_false (ends.fails same (p := fun c => c = 'x' ∨ c = 'X') (by decide))
      | cons c digits =>
        cases same
        have := forall_digit (p := fun c => ¬(c = 'x' ∨ c = 'X')) (all x List.mem_cons_self)
          (by decide)
        exact of_decide_eq_true this
    rw [if_neg notHexadecimal]
    exact decimal
  · exact decimal

theorem readsToken_int {value : Int64} (natural : 0 ≤ value) (ends : Delimits after) :
    ReadsToken (Nat.toDigits 10 value.toInt.toNat ++ after) (.int value)
      (Nat.toDigits 10 value.toInt.toNat).length := by
  have word := word?_toDigits natural
  have all := @isDecimalDigit_of_mem_toDigits value.toInt.toNat
  cases digits : Nat.toDigits 10 value.toInt.toNat with
  | nil => exact absurd digits Nat.toDigits_ne_nil
  | cons first rest =>
    rw [digits] at word all
    have digit := all first List.mem_cons_self
    have notName := forall_digit (p := fun c => !Text.beginsIdentifier c) digit (by decide)
    rw [Bool.not_eq_true'] at notName
    refine ⟨first, rest ++ after, rfl, not_leadsNoToken digit (by decide), ?_⟩
    rw [read, notName, if_neg Bool.false_ne_true, if_pos digit]
    exact number_of_digits digit (fun c member => all c (List.mem_cons_of_mem first member)) word
      ends

/-! ## Strings -/

/-- Between double quotes, escapes being read. -/
def doubleQuotes : StringForm :=
  ⟨'"', false, false⟩

/-- An escaped character is read, and the reading goes on behind it. -/
theorem stringContents_escapedChar (c : Char) (text : List Char) (count : Nat)
    (value : List Char) :
    stringContents doubleQuotes (escapedChar c ++ text) count value
      = stringContents doubleQuotes text (count + (escapedChar c).length) (c :: value) := by
  unfold escapedChar
  split
  case h_7 newline _ _ _ backslash quote =>
    have notQuote : c ≠ doubleQuotes.quote := quote
    rw [List.singleton_append, stringContents.eq_def]
    dsimp only
    rw [if_neg notQuote, if_neg fun both => newline both.1, if_neg backslash]
    rfl
  all_goals
    rw [stringContents.eq_def]
    rfl

theorem stringContents_escaped (contents : List Char) (count : Nat) (value : List Char) :
    stringContents doubleQuotes (contents.flatMap escapedChar ++ '"' :: after) count value
      = .ok (value.reverse ++ contents,
          count + (contents.flatMap escapedChar).length + 1) := by
  induction contents generalizing count value with
  | nil =>
    rw [List.flatMap_nil, List.nil_append, stringContents.eq_def, List.append_nil]
    rfl
  | cons c contents ih =>
    rw [List.flatMap_cons, List.append_assoc, stringContents_escapedChar, ih,
      List.reverse_cons, List.append_assoc, List.length_append, Nat.add_assoc count]
    rfl

/-- An escaped character is not a quote. -/
theorem escapedChar_ne_quote (c : Char) : ∃ first rest, escapedChar c = first :: rest
    ∧ first ≠ '"' := by
  unfold escapedChar
  split
  case h_7 quote => exact ⟨c, [], rfl, quote⟩
  all_goals exact ⟨'\\', _, rfl, by decide⟩

/-- The quote that opens a string is not the first of three. -/
theorem not_triple (contents : List Char) (ends : Delimits after) :
    (contents.flatMap escapedChar ++ '"' :: after).take 2 ≠ ['"', '"'] := by
  cases contents with
  | nil =>
    cases after with
    | nil => simp
    | cons c rest =>
      have noQuote := of_decide_eq_false (ends.fails rfl (p := (· = '"')) (by decide))
      simp [noQuote]
  | cons c contents =>
    obtain ⟨first, rest, escaped, notQuote⟩ := escapedChar_ne_quote c
    rw [List.flatMap_cons, escaped]
    intro same
    exact notQuote (List.cons.inj same).1

theorem readsToken_string (text : String) (ends : Delimits after) :
    ReadsToken (doubleQuoted text.toList ++ after) (.string text)
      (doubleQuoted text.toList).length := by
  refine ⟨'"', text.toList.flatMap escapedChar ++ '"' :: after, ?_, by decide, ?_⟩
  · rw [doubleQuoted, List.cons_append, List.append_assoc, List.singleton_append]
  · have contents : stringContents doubleQuotes
        (text.toList.flatMap escapedChar ++ '"' :: after) 1 [] = _ :=
      stringContents_escaped text.toList 1 []
    have width : (doubleQuoted text.toList).length
        = 1 + (text.toList.flatMap escapedChar).length + 1 := by
      rw [doubleQuoted, List.length_cons, List.length_append, List.length_singleton]
      omega
    show stringLiteral '"' false 1 _ = _
    unfold stringLiteral
    simp only [not_triple _ ends, if_false]
    show (stringContents doubleQuotes _ 1 []).map _ = _
    rw [contents, width]
    show Except.ok (TokenKind.string (String.ofList text.toList), _) = _
    rw [String.ofList_toList]

/-! ## All tokens -/

/-- What is written for a token is read as that token. -/
theorem readsToken_written {word : TokenKind} (isWritten : word.IsWritten)
    (ends : EndsToken after) : ReadsToken (word.written ++ after) word word.written.length := by
  cases word with
  | keyword word => exact readsToken_keyword word ends.delimits
  | symbol mark => exact readsToken_symbol mark ends
  | identifier spelling => exact readsToken_identifier isWritten ends.delimits
  | int value => exact readsToken_int isWritten ends.delimits
  | string text => exact readsToken_string text ends.delimits
  | float | newline | indent | dedent | endOfFile => exact isWritten.elim

end Lexeme

end PixelApplet
