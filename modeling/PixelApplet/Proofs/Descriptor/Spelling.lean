import PixelApplet.Descriptor.Lexer
import PixelApplet.Proofs.Text.Splitting

/-!
# Spellings of description files

A text spells a sequence of words if it writes them in order, with blanks and comments before,
between and behind them.  Words may touch where the second does not continue the first.  However
the words of a file are spelled, they are read back from the text.
-/

namespace PixelApplet.Descriptor

/-- What can stand between two quotes: a backslash has a character behind it, and any other
character is neither the quote nor the end of a line. -/
def Quotable (quote : Char) : List Char → Prop
  | [] => True
  | '\\' :: _ :: rest => Quotable quote rest
  | c :: rest => c ≠ '\\' ∧ c ≠ quote ∧ c ≠ '\n' ∧ Quotable quote rest

/-- Whether a number begins with a character that others follow. -/
def beginsNumber (c : Char) (rest : List Char) : Bool :=
  Text.isDecimalDigit c || (c == '-' && rest.head?.any Text.isDecimalDigit)

/-- A text writes words in order. -/
inductive Spells : List Token → List Char → Prop where
  | nil : Spells [] []
  | blank {c : Char} {tokens : List Token} {text : List Char} (isBlank : Text.isBlank c = true)
    (spells : Spells tokens text) : Spells tokens (c :: text)
  | lineComment {comment : List Char} {tokens : List Token} {text : List Char}
    (oneLine : '\n' ∉ comment) (spells : Spells tokens text) :
    Spells tokens ('/' :: '/' :: comment ++ '\n' :: text)
  | lastComment {comment : List Char} (oneLine : '\n' ∉ comment) :
    Spells [] ('/' :: '/' :: comment)
  | blockComment {comment : List Char} {tokens : List Token} {text : List Char}
    (closed : ¬ ['*', '/'] <:+: comment) (spells : Spells tokens text) :
    Spells tokens ('/' :: '*' :: comment ++ '*' :: '/' :: text)
  | name {c : Char} {others : List Char} {tokens : List Token} {text : List Char}
    (begins : beginsName c = true) (continue_ : ∀ d ∈ others, continuesName d = true)
    (ends : ∀ d ∈ text.head?, continuesName d = false) (spells : Spells tokens text) :
    Spells (.name (String.ofList (c :: others)) :: tokens) (c :: others ++ text)
  | number {c : Char} {others : List Char} {tokens : List Token} {text : List Char}
    (begins : beginsNumber c others = true) (continue_ : ∀ d ∈ others, continuesNumber d = true)
    (ends : ∀ d ∈ text.head?, continuesNumber d = false) (spells : Spells tokens text) :
    Spells (.ofNumber (c :: others) :: tokens) (c :: others ++ text)
  | text {quote : Char} {contents : List Char} {tokens : List Token} {text : List Char}
    (isQuote : quote = '"' ∨ quote = '\'') (quotable : Quotable quote contents)
    (spells : Spells tokens text) :
    Spells (.text (String.ofList contents) :: tokens) (quote :: contents ++ quote :: text)
  | mark {c : Char} {tokens : List Token} {text : List Char} (isMark : isMark c = true)
    (ends : beginsNumber c text = false) (spells : Spells tokens text) :
    Spells (.mark c :: tokens) (c :: text)

section Characters

variable {c : Char}

theorem isDecimalDigit_iff : Text.isDecimalDigit c = true ↔ 48 ≤ c.toNat ∧ c.toNat ≤ 57 := by
  simp only [Text.isDecimalDigit, Bool.and_eq_true, decide_eq_true_eq, Char.le_def,
    UInt32.le_iff_toNat_le]
  exact Iff.rfl

theorem isAsciiLetter_iff : Text.isAsciiLetter c = true ↔
    (97 ≤ c.toNat ∧ c.toNat ≤ 122) ∨ (65 ≤ c.toNat ∧ c.toNat ≤ 90) := by
  simp only [Text.isAsciiLetter, Bool.or_eq_true, Bool.and_eq_true, decide_eq_true_eq, Char.le_def,
    UInt32.le_iff_toNat_le]
  exact Iff.rfl

theorem beginsName_iff : beginsName c = true ↔
    (97 ≤ c.toNat ∧ c.toNat ≤ 122) ∨ (65 ≤ c.toNat ∧ c.toNat ≤ 90) ∨ c.toNat = 95
      ∨ c.toNat = 46 := by
  simp only [beginsName, Bool.or_eq_true, isAsciiLetter_iff, beq_iff_eq, ← Char.toNat_inj]
  simp only [or_assoc]
  exact Iff.rfl

/-- A blank begins nothing else. -/
theorem not_blank_of_beginsName (begins : beginsName c = true) : Text.isBlank c = false := by
  rw [beginsName_iff] at begins
  rw [Bool.eq_false_iff]
  intro blank
  simp only [Text.isBlank, Bool.or_eq_true, Bool.and_eq_true, decide_eq_true_eq, beq_iff_eq] at blank
  omega

theorem not_blank_of_digit (digit : Text.isDecimalDigit c = true) : Text.isBlank c = false := by
  rw [isDecimalDigit_iff] at digit
  rw [Bool.eq_false_iff]
  intro blank
  simp only [Text.isBlank, Bool.or_eq_true, Bool.and_eq_true, decide_eq_true_eq, beq_iff_eq] at blank
  omega

theorem not_beginsName_of_digit (digit : Text.isDecimalDigit c = true) : beginsName c = false := by
  rw [isDecimalDigit_iff] at digit
  rw [Bool.eq_false_iff, Ne, beginsName_iff]
  omega

/-- What begins a number begins nothing else. -/
theorem plain_of_beginsNumber {rest : List Char} (begins : beginsNumber c rest = true) :
    c ≠ '/' ∧ Text.isBlank c = false ∧ beginsName c = false := by
  rw [beginsNumber, Bool.or_eq_true] at begins
  obtain digit | minus := begins
  · refine ⟨?_, not_blank_of_digit digit, not_beginsName_of_digit digit⟩
    rintro rfl
    cases digit
  · rw [Bool.and_eq_true, beq_iff_eq] at minus
    rw [minus.1]
    exact ⟨by decide, rfl, rfl⟩

theorem beginsNumber_append {others text : List Char} (begins : beginsNumber c others = true) :
    beginsNumber c (others ++ text) = true := by
  cases others with
  | nil =>
    have digit : Text.isDecimalDigit c = true := by simpa [beginsNumber] using begins
    rw [beginsNumber, digit, Bool.true_or]
  | cons d others => exact begins

/-- What each of the few marks is tested for. -/
theorem of_isMark (test : Char → Bool)
    (marks : ['\x7b', '\x7d', '[', ']', '(', ')', '<', '>', ';', '=', ',', ':', '+', '-'].all test)
    (isMark : isMark c = true) : test c = true :=
  List.all_eq_true.mp marks c (List.contains_iff_mem.mp isMark)

/-- A mark begins nothing else, but a minus may begin a number. -/
theorem plain_of_isMark (isMark : isMark c = true) :
    c ≠ '/' ∧ Text.isBlank c = false ∧ beginsName c = false ∧ ¬ (c = '"' ∨ c = '\'') :=
  of_decide_eq_true (of_isMark (fun c => decide (c ≠ '/' ∧ Text.isBlank c = false
    ∧ beginsName c = false ∧ ¬ (c = '"' ∨ c = '\''))) (by decide) isMark)

end Characters

theorem quotedContents?_of_quotable {quote : Char} (isQuote : quote = '"' ∨ quote = '\'')
    {contents : List Char} (quotable : Quotable quote contents) (behind : List Char) :
    quotedContents? quote (contents ++ quote :: behind) = some (contents, behind) := by
  induction contents using Quotable.induct with
  | case1 =>
    obtain rfl | rfl := isQuote <;> rfl
  | case2 c rest ih =>
    rw [Quotable] at quotable
    rw [List.cons_append, List.cons_append, quotedContents?, ih quotable]
    rfl
  | case3 c rest other ih =>
    rw [Quotable] at quotable
    · obtain ⟨plain, noQuote, noEnd, quotable⟩ := quotable
      rw [List.cons_append, quotedContents?, if_neg noQuote, if_neg noEnd, ih quotable]
      · rfl
      · exact fun _ _ same => absurd same plain
    · exact other

/-- A text is read as words, wherever it begins. -/
def Lexes (text : List Char) (tokens : List Token) : Prop :=
  ∀ turns place, text.length ≤ turns →
    ∃ lexemes, lexFrom turns place text = .ok lexemes ∧ lexemes.map Lexeme.token = tokens

section Lexing

variable {c : Char} {text others comment : List Char} {tokens : List Token}

theorem lexes_nil : Lexes [] [] := by
  intro turns place _
  refine ⟨[], ?_, rfl⟩
  cases turns <;> rfl

theorem lexFrom_slash_slash (turns : Nat) (place : Place) :
    lexFrom (turns + 1) place ('/' :: '/' :: text) =
      lexFrom turns (place.behindAll ('/' :: '/' :: text.takeWhile (· ≠ '\n')))
        (text.dropWhile (· ≠ '\n')) :=
  rfl

theorem lexFrom_slash_star (turns : Nat) (place : Place) :
    lexFrom (turns + 1) place ('/' :: '*' :: text) =
      match Text.cutFirst? ['*', '/'] text with
      | none => .error ⟨place, .unterminatedComment⟩
      | some (comment, behind) =>
        lexFrom turns (place.behindAll (['/', '*'] ++ comment ++ ['*', '/'])) behind :=
  rfl

/-- The first step of reading a text that begins with no comment. -/
theorem lexFrom_cons (turns : Nat) (place : Place) (noSlash : c ≠ '/') :
    lexFrom (turns + 1) place (c :: text) =
      let found (token : Token) (word behind : List Char) : Except Misread (List Lexeme) :=
        (lexFrom turns (place.behindAll word) behind).map (⟨token, place⟩ :: ·)
      if Text.isBlank c then lexFrom turns (place.behind c) text
      else if beginsName c then
        found (.name (String.ofList (c :: text.takeWhile continuesName)))
          (c :: text.takeWhile continuesName) (text.dropWhile continuesName)
      else if beginsNumber c text then
        found (.ofNumber (c :: text.takeWhile continuesNumber))
          (c :: text.takeWhile continuesNumber) (text.dropWhile continuesNumber)
      else if c = '"' ∨ c = '\'' then
        match quotedContents? c text with
        | none => .error ⟨place, .unterminatedString⟩
        | some (contents, behind) =>
          found (.text (String.ofList contents)) (c :: contents ++ [c]) behind
      else if isMark c then found (.mark c) [c] text
      else .error ⟨place, .unexpectedCharacter c⟩ := by
  rw [lexFrom.eq_def]
  split
  · rename_i finished
    cases finished
  · rename_i finished _
    cases finished
  · rename_i text_eq
    exact absurd (List.cons.inj text_eq).1 noSlash
  · rename_i text_eq
    exact absurd (List.cons.inj text_eq).1 noSlash
  · rename_i turns_eq text_eq
    cases turns_eq
    cases text_eq
    rfl

theorem lexes_blank (isBlank : Text.isBlank c = true) (lexes : Lexes text tokens) :
    Lexes (c :: text) tokens := by
  intro turns place enough
  cases turns with
  | zero => cases enough
  | succ turns =>
    have noSlash : c ≠ '/' := by
      rintro rfl
      cases isBlank
    rw [lexFrom_cons turns place noSlash]
    dsimp only
    rw [if_pos isBlank]
    exact lexes turns _ (Nat.le_of_succ_le_succ enough)

/-- A text that begins with a word is read as that word and what follows. -/
theorem lexes_word {token : Token} (word : List Char) {behind : List Char}
    (step : ∀ turns place, lexFrom (turns + 1) place text
      = (lexFrom turns (place.behindAll word) behind).map (⟨token, place⟩ :: ·))
    (shorter : behind.length < text.length) (lexes : Lexes behind tokens) :
    Lexes text (token :: tokens) := by
  intro turns place enough
  cases turns with
  | zero => omega
  | succ turns =>
    obtain ⟨lexemes, read, same⟩ := lexes turns (place.behindAll word) (by omega)
    refine ⟨⟨token, place⟩ :: lexemes, ?_, ?_⟩
    · rw [step, read]
      rfl
    · rw [List.map_cons, same]

/-- A run of characters of one class ends where the next one is of another class. -/
theorem span_append {class_ : Char → Bool} (all : ∀ d ∈ others, class_ d = true)
    (ends : ∀ d ∈ text.head?, class_ d = false) :
    (others ++ text).takeWhile class_ = others ∧ (others ++ text).dropWhile class_ = text := by
  rw [List.takeWhile_append_of_pos all, List.dropWhile_append_of_pos all]
  cases text with
  | nil => exact ⟨List.append_nil _, rfl⟩
  | cons d rest =>
    have stops : ¬ class_ d = true := Bool.eq_false_iff.mp (ends d rfl)
    rw [List.takeWhile_cons_of_neg stops, List.dropWhile_cons_of_neg stops, List.append_nil]
    exact ⟨rfl, rfl⟩

theorem lexes_name (begins : beginsName c = true) (continue_ : ∀ d ∈ others, continuesName d = true)
    (ends : ∀ d ∈ text.head?, continuesName d = false) (lexes : Lexes text tokens) :
    Lexes (c :: others ++ text) (.name (String.ofList (c :: others)) :: tokens) := by
  refine lexes_word (c :: others) (fun turns place => ?_) ?_ lexes
  · have noSlash : c ≠ '/' := by
      rintro rfl
      cases begins
    obtain ⟨taken, left⟩ := span_append continue_ ends
    rw [List.cons_append, lexFrom_cons turns place noSlash]
    dsimp only
    rw [not_blank_of_beginsName begins, if_neg Bool.false_ne_true, if_pos begins, taken, left]
  · simp only [List.length_append, List.length_cons]
    omega

theorem lexes_number (begins : beginsNumber c others = true)
    (continue_ : ∀ d ∈ others, continuesNumber d = true)
    (ends : ∀ d ∈ text.head?, continuesNumber d = false) (lexes : Lexes text tokens) :
    Lexes (c :: others ++ text) (.ofNumber (c :: others) :: tokens) := by
  refine lexes_word (c :: others) (fun turns place => ?_) ?_ lexes
  · obtain ⟨noSlash, noBlank, noName⟩ := plain_of_beginsNumber begins
    obtain ⟨taken, left⟩ := span_append continue_ ends
    rw [List.cons_append, lexFrom_cons turns place noSlash]
    dsimp only
    rw [noBlank, if_neg Bool.false_ne_true, noName, if_neg Bool.false_ne_true,
      if_pos (beginsNumber_append begins), taken, left]
  · simp only [List.length_append, List.length_cons]
    omega

theorem lexes_text {quote : Char} {contents : List Char} (isQuote : quote = '"' ∨ quote = '\'')
    (quotable : Quotable quote contents) (lexes : Lexes text tokens) :
    Lexes (quote :: contents ++ quote :: text) (.text (String.ofList contents) :: tokens) := by
  have read := quotedContents?_of_quotable isQuote quotable text
  refine lexes_word (quote :: contents ++ [quote]) (fun turns place => ?_) ?_ lexes
  · obtain ⟨noSlash, noBlank, noName, noNumber⟩ : quote ≠ '/' ∧ Text.isBlank quote = false
        ∧ beginsName quote = false ∧ beginsNumber quote (contents ++ quote :: text) = false := by
      obtain rfl | rfl := isQuote <;> exact ⟨by decide, rfl, rfl, rfl⟩
    rw [List.cons_append, lexFrom_cons turns place noSlash]
    dsimp only
    rw [noBlank, if_neg Bool.false_ne_true, noName, if_neg Bool.false_ne_true, noNumber,
      if_neg Bool.false_ne_true, if_pos isQuote, read]
  · simp only [List.length_append, List.length_cons]
    omega

theorem lexes_mark (isMark : isMark c = true) (ends : beginsNumber c text = false)
    (lexes : Lexes text tokens) : Lexes (c :: text) (.mark c :: tokens) := by
  refine lexes_word [c] (fun turns place => ?_) ?_ lexes
  · obtain ⟨noSlash, noBlank, noName, noQuote⟩ := plain_of_isMark isMark
    rw [lexFrom_cons turns place noSlash]
    dsimp only
    rw [noBlank, if_neg Bool.false_ne_true, noName, if_neg Bool.false_ne_true, ends,
      if_neg Bool.false_ne_true, if_neg noQuote, if_pos isMark]
  · simp

/-- A comment in which the closing marks do not occur ends at those behind it. -/
theorem cutFrom?_closed (closed : ¬ ['*', '/'] <:+: comment) (seen : List Char) :
    Text.cutFrom? ['*', '/'] seen (comment ++ '*' :: '/' :: text) =
      some (seen.reverse ++ comment, text) := by
  induction comment generalizing seen with
  | nil =>
    rw [List.append_nil]
    rfl
  | cons c comment ih =>
    rw [List.infix_cons_iff, not_or] at closed
    have goesOn : Text.dropStart? ['*', '/'] (c :: (comment ++ '*' :: '/' :: text)) = none := by
      rw [Option.eq_none_iff_forall_ne_some]
      intro rest found
      rw [Text.dropStart?_eq_some] at found
      cases comment with
      | nil => simp at found
      | cons d comment =>
        simp only [List.cons_append, List.nil_append, List.cons.injEq] at found
        obtain ⟨rfl, rfl, _⟩ := found
        exact closed.1 ⟨comment, rfl⟩
    rw [List.cons_append, Text.cutFrom?, goesOn]
    dsimp only
    rw [ih closed.2, List.reverse_cons, List.append_assoc]
    rfl

theorem lexes_blockComment (closed : ¬ ['*', '/'] <:+: comment) (lexes : Lexes text tokens) :
    Lexes ('/' :: '*' :: comment ++ '*' :: '/' :: text) tokens := by
  intro turns place enough
  cases turns with
  | zero => cases enough
  | succ turns =>
    rw [List.cons_append, List.cons_append, lexFrom_slash_star, Text.cutFirst?,
      cutFrom?_closed closed]
    refine lexes turns _ ?_
    simp only [List.length_cons, List.length_append] at enough
    omega

/-- A comment up to the end of its line is passed over. -/
theorem lexFrom_lineComment (oneLine : '\n' ∉ comment) (ends : ∀ d ∈ text.head?, d = '\n')
    (turns : Nat) (place : Place) :
    lexFrom (turns + 1) place ('/' :: '/' :: (comment ++ text)) =
      lexFrom turns (place.behindAll ('/' :: '/' :: comment)) text := by
  have inside : ∀ d ∈ comment, decide (d ≠ '\n') = true := fun d member =>
    decide_eq_true fun same => oneLine (same ▸ member)
  have stops : ∀ d ∈ text.head?, decide (d ≠ '\n') = false := fun d first =>
    decide_eq_false fun other => other (ends d first)
  obtain ⟨taken, left⟩ := span_append inside stops
  rw [lexFrom_slash_slash, taken, left]

theorem lexes_lineComment (oneLine : '\n' ∉ comment) (lexes : Lexes text tokens) :
    Lexes ('/' :: '/' :: comment ++ '\n' :: text) tokens := by
  intro turns place enough
  cases turns with
  | zero => cases enough
  | succ turns =>
    have ends : ∀ d ∈ ('\n' :: text).head?, d = '\n' := fun d first =>
      (Option.some.inj first).symm
    rw [List.cons_append, List.cons_append, lexFrom_lineComment oneLine ends]
    refine lexes_blank rfl lexes turns _ ?_
    simp only [List.length_cons, List.length_append] at enough ⊢
    omega

theorem lexes_lastComment (oneLine : '\n' ∉ comment) : Lexes ('/' :: '/' :: comment) [] := by
  intro turns place enough
  cases turns with
  | zero => cases enough
  | succ turns =>
    have ends : ∀ d ∈ ([] : List Char).head?, d = '\n' := nofun
    have read := lexFrom_lineComment oneLine ends turns place
    rw [List.append_nil] at read
    rw [read]
    exact lexes_nil turns _ (Nat.zero_le _)

end Lexing

/-- The words that a text spells are read from it. -/
theorem Spells.lexes {tokens : List Token} {text : List Char} (spells : Spells tokens text) :
    Lexes text tokens := by
  induction spells with
  | nil => exact lexes_nil
  | blank isBlank _ ih => exact lexes_blank isBlank ih
  | lineComment oneLine _ ih => exact lexes_lineComment oneLine ih
  | lastComment oneLine => exact lexes_lastComment oneLine
  | blockComment closed _ ih => exact lexes_blockComment closed ih
  | name begins continue_ ends _ ih => exact lexes_name begins continue_ ends ih
  | number begins continue_ ends _ ih => exact lexes_number begins continue_ ends ih
  | text isQuote quotable _ ih => exact lexes_text isQuote quotable ih
  | mark isMark ends _ ih => exact lexes_mark isMark ends ih

/-- A text is cut into the words that it spells. -/
theorem lex_of_spells {tokens : List Token} {text : String} (spells : Spells tokens text.toList) :
    ∃ lexemes, lex text = .ok lexemes ∧ lexemes.map Lexeme.token = tokens :=
  spells.lexes _ _ (Nat.le_succ _)

end PixelApplet.Descriptor
